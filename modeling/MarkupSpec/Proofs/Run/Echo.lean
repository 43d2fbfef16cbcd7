import MarkupSpec.Proofs.Run.Concurs

/-!
# Runs that echo one another

Two runs are compared on terms that say which states go together, which failures do, and
which failures of the first run excuse the second one from everything (`Likeness`).  The
second run *echoes* the first if both end well in states that go together, or both fail, for
causes and in states that go together (`Echoes`).  Other than with `Concurs`, what a failed
run leaves behind counts.

A step echoes another one if its runs do from all states that go together (`Echo`), and steps
that are put together from steps that echo one another do so too (`Echo.bind`).
-/

namespace MarkupSpec

/-- The terms on which two runs are compared. -/
structure Likeness (ε σ : Type) where
  /-- If the first run fails for this, nothing is asked of the second one. -/
  excuse : ε → Prop
  /-- The failures that go together. -/
  causes : ε → ε → Prop
  /-- The states that go together. -/
  states : σ → σ → Prop

section Rules

variable {ε σ α α' β β' : Type} {like like' : Likeness ε σ}

/-- The second run ends as the first one does, unless that has an excuse. -/
inductive Echoes (like : Likeness ε σ) (done : α → α' → Prop) :
    EStateM.Result ε σ α → EStateM.Result ε σ α' → Prop
  | ok {result result' state state'} : done result result' → like.states state state' →
      Echoes like done (.ok result state) (.ok result' state')
  | failed {cause cause' state state'} : like.causes cause cause' → like.states state state' →
      Echoes like done (.error cause state) (.error cause' state')
  | excused {cause state outcome} : like.excuse cause → Echoes like done (.error cause state) outcome

/-- From states that go together the second step echoes the first one. -/
def Echo (like : Likeness ε σ) (done : α → α' → Prop) (first : EStateM ε σ α)
    (second : EStateM ε σ α') : Prop :=
  ∀ start start', like.states start start' → Echoes like done (first start) (second start')

variable {first : EStateM ε σ α} {second : EStateM ε σ α'} {done done' : α → α' → Prop}
  {start start' : σ}

/-- What is asked of the results and of the failures may be weakened. -/
theorem Echoes.mono {outcome : EStateM.Result ε σ α} {outcome' : EStateM.Result ε σ α'}
    (echoes : Echoes like done outcome outcome')
    (onDone : ∀ result result', done result result' → done' result result')
    (onExcuse : ∀ cause, like.excuse cause → like'.excuse cause)
    (onCauses : ∀ cause cause', like.causes cause cause' → like'.causes cause cause')
    (onStates : ∀ state state', like.states state state' → like'.states state state') :
    Echoes like' done' outcome outcome' := by
  cases echoes with
  | ok holds goes => exact .ok (onDone _ _ holds) (onStates _ _ goes)
  | failed alike goes => exact .failed (onCauses _ _ alike) (onStates _ _ goes)
  | excused excuse => exact .excused (onExcuse _ excuse)

/-- If the first run ends well, so does the second one. -/
theorem Echoes.of_ok {result : α} {state : σ} {outcome : EStateM.Result ε σ α'}
    (echoes : Echoes like done (.ok result state) outcome) :
    ∃ result' state', outcome = .ok result' state' ∧ done result result' ∧
      like.states state state' := by
  cases echoes with
  | ok holds goes => exact ⟨_, _, rfl, holds, goes⟩

/-- Where only equal failures and equal states go together, runs that echo one another without an
excuse are equal. -/
theorem Echoes.eq {outcome outcome' : EStateM.Result ε σ α} (echoes : Echoes like Eq outcome outcome')
    (causes : ∀ {cause cause'}, like.causes cause cause' → cause = cause')
    (states : ∀ {state state'}, like.states state state' → state = state')
    (noExcuse : ∀ cause, like.excuse cause → ∀ state, outcome ≠ .error cause state) :
    outcome = outcome' := by
  cases echoes with
  | ok same goes => rw [same, states goes]
  | failed alike goes => rw [causes alike, states goes]
  | excused excuse => exact absurd rfl (noExcuse _ excuse _)

theorem Echo.mono (echo : Echo like done first second)
    (onDone : ∀ result result', done result result' → done' result result') :
    Echo like done' first second := by
  intro start start' goes
  exact (echo start start' goes).mono onDone (fun _ => id) (fun _ _ => id) fun _ _ => id

/-- Where only equal states go together, a step echoes itself. -/
theorem Echo.refl (states : ∀ {state state'}, like.states state state' ↔ state = state')
    (causes : ∀ cause, like.causes cause cause) (step : EStateM ε σ α) : Echo like Eq step step := by
  intro start start' goes
  obtain rfl := states.mp goes
  cases step start with
  | ok result state => exact .ok rfl (states.mpr rfl)
  | error cause state => exact .failed (causes cause) (states.mpr rfl)

theorem Echo.pure {result : α} {result' : α'} (holds : done result result') :
    Echo like done (pure result : EStateM ε σ α) (pure result' : EStateM ε σ α') :=
  fun _ _ goes => .ok holds goes

theorem Echo.throw {cause cause' : ε} (alike : like.causes cause cause') :
    Echo like done (throw cause : EStateM ε σ α) (throw cause' : EStateM ε σ α') :=
  fun _ _ goes => .failed alike goes

theorem Echo.excused {cause : ε} (excused : like.excuse cause) (second : EStateM ε σ α') :
    Echo like done (MonadExcept.throw cause : EStateM ε σ α) second :=
  fun _ _ _ => .excused excused

/-- A run that is echoed goes on, if it ends well, with a step that is. -/
theorem Echoes.bind {next : α → EStateM ε σ β} {next' : α' → EStateM ε σ β'}
    {last : β → β' → Prop} (echoes : Echoes like done (first start) (second start'))
    (onNext : ∀ result state result' state', first start = .ok result state →
      second start' = .ok result' state' → done result result' → like.states state state' →
      Echoes like last (next result state) (next' result' state')) :
    Echoes like last ((first >>= next) start) ((second >>= next') start') := by
  simp only [Bind.bind, EStateM.bind]
  cases run : first start with
  | ok result state =>
      rw [run] at echoes
      cases run' : second start' with
      | ok result' state' =>
          rw [run'] at echoes
          cases echoes with
          | ok holds goes => exact onNext result state result' state' run run' holds goes
      | error =>
          rw [run'] at echoes
          cases echoes
  | error cause state =>
      rw [run] at echoes
      cases run' : second start' with
      | ok =>
          rw [run'] at echoes
          cases echoes with
          | excused excuse => exact .excused excuse
      | error cause' state' =>
          rw [run'] at echoes
          cases echoes with
          | failed alike goes => exact .failed alike goes
          | excused excuse => exact .excused excuse

theorem Echo.bind {next : α → EStateM ε σ β} {next' : α' → EStateM ε σ β'}
    {last : β → β' → Prop} (onFirst : Echo like done first second)
    (onNext : ∀ result result', done result result' → Echo like last (next result) (next' result')) :
    Echo like last (first >>= next) (second >>= next') := by
  intro start start' goes
  refine (onFirst start start' goes).bind ?_
  intro result state result' state' _ _ holds goes
  exact onNext result result' holds state state' goes

/-- Both runs go on with what their states are. -/
theorem Echo.bind_get {next next' : σ → EStateM ε σ α}
    {done : α → α → Prop} (onNext : ∀ start start', like.states start start' →
      Echoes like done (next start start) (next' start' start')) :
    Echo like done (get >>= next) (get >>= next') :=
  fun start start' goes => onNext start start' goes

theorem Echo.modify {change change' : σ → σ} {done : PUnit → PUnit → Prop}
    (holds : done ⟨⟩ ⟨⟩)
    (onChange : ∀ start start', like.states start start' →
      like.states (change start) (change' start')) :
    Echo like done (modify change : EStateM ε σ PUnit) (modify change') :=
  fun start start' goes => .ok holds (onChange start start' goes)

theorem Echo.map {f : α → β} {f' : α' → β'} {last : β → β' → Prop}
    (echo : Echo like done first second)
    (onDone : ∀ result result', done result result' → last (f result) (f' result')) :
    Echo like last (f <$> first) (f' <$> second) := by
  rw [← bind_pure_comp, ← bind_pure_comp]
  exact echo.bind fun result result' holds => Echo.pure (onDone result result' holds)

theorem Echo.discard {last : PUnit → PUnit → Prop} (echo : Echo like done first second)
    (holds : last ⟨⟩ ⟨⟩) : Echo like last (discard first) (discard second) :=
  echo.map fun _ _ _ => holds

end Rules

end MarkupSpec
