import MarkupSpec.World

/-!
# What a step ensures

`Ensures step start done failed` says how one run of a step ends: in a result
and a state with `done`, or in a failure and a state with `failed`.  A failed
step keeps what it did, so most of what is said here is said of both endings.

`Keeps R step` is the case where both endings stand in the same relation `R` to
the start.  A relation that is reflexive and transitive is kept by every step
that is put together from steps that keep it.

An edit is lifted to a build by `Build.edit`, which leaves the rest of the world
alone (`ensures_edit`).
-/

namespace MarkupSpec

variable {ε σ α β : Type}

/-- How the run of a step from a state ends. -/
def Ensures (step : EStateM ε σ α) (start : σ) (done : α → σ → Prop) (failed : ε → σ → Prop) :
    Prop :=
  match step start with
  | .ok result state => done result state
  | .error cause state => failed cause state

/-- Does the run of a step from a state end as two tests say? -/
def endsIn (step : EStateM ε σ α) (start : σ) (done : α → σ → Prop) (failed : ε → σ → Prop)
    [∀ result state, Decidable (done result state)]
    [∀ cause state, Decidable (failed cause state)] : Bool :=
  match step start with
  | .ok result state => decide (done result state)
  | .error cause state => decide (failed cause state)

section Tests

variable {step : EStateM ε σ α} {start : σ} {done : α → σ → Prop} {failed : ε → σ → Prop}
  [∀ result state, Decidable (done result state)] [∀ cause state, Decidable (failed cause state)]

theorem done_of_endsIn {result : α} {state : σ} (ends : endsIn step start done failed)
    (run : step start = .ok result state) : done result state := by
  rw [endsIn, run] at ends
  exact of_decide_eq_true ends

theorem failed_of_endsIn {cause : ε} {state : σ} (ends : endsIn step start done failed)
    (run : step start = .error cause state) : failed cause state := by
  rw [endsIn, run] at ends
  exact of_decide_eq_true ends

end Tests

section Rules

variable {start : σ} {done : β → σ → Prop} {failed : ε → σ → Prop}

theorem Ensures.mono {step : EStateM ε σ α} {done done' : α → σ → Prop}
    {failed failed' : ε → σ → Prop} (ensured : Ensures step start done failed)
    (onDone : ∀ result state, done result state → done' result state)
    (onFailed : ∀ cause state, failed cause state → failed' cause state) :
    Ensures step start done' failed' := by
  unfold Ensures at ensured ⊢
  cases run : step start with
  | ok result state =>
      rw [run] at ensured
      exact onDone result state ensured
  | error cause state =>
      rw [run] at ensured
      exact onFailed cause state ensured

theorem Ensures.and {step : EStateM ε σ α} {done done' : α → σ → Prop}
    {failed failed' : ε → σ → Prop} (first : Ensures step start done failed)
    (second : Ensures step start done' failed') :
    Ensures step start (fun result state => done result state ∧ done' result state)
      fun cause state => failed cause state ∧ failed' cause state := by
  unfold Ensures at first second ⊢
  cases run : step start with
  | ok result state =>
      rw [run] at first second
      exact ⟨first, second⟩
  | error cause state =>
      rw [run] at first second
      exact ⟨first, second⟩

/-- What is ensured of a run may depend on how it ends. -/
theorem Ensures.of_run {step : EStateM ε σ β}
    (onDone : ∀ result state, step start = .ok result state → done result state)
    (onFailed : ∀ cause state, step start = .error cause state → failed cause state) :
    Ensures step start done failed := by
  unfold Ensures
  cases run : step start with
  | ok result state => exact onDone result state run
  | error cause state => exact onFailed cause state run

/-- A run that ends well has what is ensured of that ending. -/
theorem Ensures.of_ok {step : EStateM ε σ α} {done : α → σ → Prop} {result : α} {state : σ}
    (ensured : Ensures step start done failed) (run : step start = .ok result state) :
    done result state := by
  rw [Ensures, run] at ensured
  exact ensured

/-- A run that fails has what is ensured of that ending. -/
theorem Ensures.of_error {step : EStateM ε σ α} {done : α → σ → Prop} {cause : ε} {state : σ}
    (ensured : Ensures step start done failed) (run : step start = .error cause state) :
    failed cause state := by
  rw [Ensures, run] at ensured
  exact ensured

/-- A run that is known to end in one way ends in it. -/
theorem Ensures.eq_ok {step : EStateM ε σ α} {result : α} {state : σ}
    (ensured : Ensures step start (fun found after => found = result ∧ after = state)
      fun _ _ => False) : step start = .ok result state := by
  unfold Ensures at ensured
  cases run : step start with
  | ok found after =>
      rw [run] at ensured
      obtain ⟨rfl, rfl⟩ := ensured
      rfl
  | error =>
      rw [run] at ensured
      exact ensured.elim

/-- A run of two steps that ends well is one of the first and then one of the second. -/
theorem bind_eq_ok {first : EStateM ε σ α} {next : α → EStateM ε σ β} {result : β} {state : σ} :
    (first >>= next) start = .ok result state ↔
      ∃ found middle, first start = .ok found middle ∧ next found middle = .ok result state := by
  simp only [bind, EStateM.bind]
  cases first start with
  | ok found middle =>
      refine ⟨fun run => ⟨found, middle, rfl, run⟩, ?_⟩
      rintro ⟨_, _, ⟨⟩, run⟩
      exact run
  | error => simp

/-- A run of two steps that fails is one where the first fails, or one of the first and then one
where the second fails. -/
theorem bind_eq_error {first : EStateM ε σ α} {next : α → EStateM ε σ β} {cause : ε} {state : σ} :
    (first >>= next) start = .error cause state ↔
      first start = .error cause state ∨
        ∃ found middle,
          first start = .ok found middle ∧ next found middle = .error cause state := by
  simp only [bind, EStateM.bind]
  cases first start with
  | ok found middle =>
      refine ⟨fun run => .inr ⟨found, middle, rfl, run⟩, ?_⟩
      rintro (failed | ⟨_, _, ⟨⟩, run⟩)
      · cases failed
      · exact run
  | error => simp

/-- An assumption that both endings share may be made before the run. -/
theorem ensures_assuming {step : EStateM ε σ β} {assumed : Prop} :
    Ensures step start (fun result state => assumed → done result state)
        (fun cause state => assumed → failed cause state) ↔
      (assumed → Ensures step start done failed) := by
  unfold Ensures
  cases step start with
  | ok result state => exact Iff.rfl
  | error cause state => exact Iff.rfl

@[simp]
theorem ensures_pure {result : β} :
    Ensures (pure result : EStateM ε σ β) start done failed ↔ done result start := Iff.rfl

@[simp]
theorem ensures_throw {cause : ε} :
    Ensures (throw cause : EStateM ε σ β) start done failed ↔ failed cause start := Iff.rfl

@[simp]
theorem ensures_get {done : σ → σ → Prop} :
    Ensures (get : EStateM ε σ σ) start done failed ↔ done start start := Iff.rfl

@[simp]
theorem ensures_modify {change : σ → σ} {done : PUnit → σ → Prop} :
    Ensures (modify change : EStateM ε σ PUnit) start done failed ↔ done ⟨⟩ (change start) :=
  Iff.rfl

@[simp]
theorem ensures_bind {first : EStateM ε σ α} {next : α → EStateM ε σ β} :
    Ensures (first >>= next) start done failed ↔
      Ensures first start (fun result state => Ensures (next result) state done failed) failed := by
  simp only [Ensures, bind, EStateM.bind]
  cases first start with
  | ok result state => exact Iff.rfl
  | error cause state => exact Iff.rfl

@[simp]
theorem ensures_map {step : EStateM ε σ α} {f : α → β} :
    Ensures (f <$> step) start done failed ↔
      Ensures step start (fun result state => done (f result) state) failed := by
  simp only [Ensures, Functor.map, EStateM.map]
  cases step start with
  | ok result state => exact Iff.rfl
  | error cause state => exact Iff.rfl

@[simp]
theorem ensures_discard {step : EStateM ε σ α} {done : PUnit → σ → Prop} :
    Ensures (discard step) start done failed ↔
      Ensures step start (fun _ state => done ⟨⟩ state) failed :=
  ensures_map

end Rules

/-! ## Relations that are kept -/

/-- Both endings of the step stand in a relation to the start. -/
def Keeps (R : σ → σ → Prop) (step : EStateM ε σ α) : Prop :=
  ∀ start, Ensures step start (fun _ => R start) fun _ => R start

/-- A relation that holds of a state and itself and may be followed up. -/
structure Follows (R : σ → σ → Prop) : Prop where
  refl : ∀ state, R state state
  trans : ∀ {first second third}, R first second → R second third → R first third

namespace Keeps

variable {R : σ → σ → Prop}

theorem pure (follows : Follows R) (result : α) : Keeps R (pure result : EStateM ε σ α) :=
  fun start => follows.refl start

theorem throw (follows : Follows R) (cause : ε) : Keeps R (throw cause : EStateM ε σ α) :=
  fun start => follows.refl start

theorem get (follows : Follows R) : Keeps R (get : EStateM ε σ σ) :=
  fun start => follows.refl start

theorem modify {change : σ → σ} (kept : ∀ state, R state (change state)) :
    Keeps R (modify change : EStateM ε σ PUnit) :=
  fun start => kept start

theorem bind (follows : Follows R) {first : EStateM ε σ α} {next : α → EStateM ε σ β}
    (onFirst : Keeps R first) (onNext : ∀ result, Keeps R (next result)) :
    Keeps R (first >>= next) := by
  intro start
  rw [ensures_bind]
  refine (onFirst start).mono (fun result state kept => ?_) (fun _ _ kept => kept)
  exact (onNext result state).mono (fun _ _ later => follows.trans kept later)
    (fun _ _ later => follows.trans kept later)

theorem map {step : EStateM ε σ α} (kept : Keeps R step) (f : α → β) : Keeps R (f <$> step) := by
  intro start
  rw [ensures_map]
  exact kept start

theorem discard {step : EStateM ε σ α} (kept : Keeps R step) : Keeps R (discard step) :=
  kept.map _

theorem forM (follows : Follows R) {step : α → EStateM ε σ PUnit} {members : List α}
    (kept : ∀ member ∈ members, Keeps R (step member)) : Keeps R (members.forM step) := by
  induction members with
  | nil => exact pure follows _
  | cons member rest ih =>
      refine bind follows (kept member (by simp)) fun _ => ih fun other among => ?_
      exact kept other (by simp [among])

end Keeps

/-! ## Edits inside a build -/

/-- An edit of the world does to the forest what it does to a forest, and nothing
to the rest. -/
theorem ensures_edit {step : Edit α} {world : World} {done : α → World → Prop}
    {failed : Failure → World → Prop} :
    Ensures (Build.edit step) world done failed ↔
      Ensures step world.forest (fun result forest => done result { world with forest })
        fun cause forest => failed (.edit cause) { world with forest } := by
  unfold Ensures Build.edit
  cases step world.forest with
  | ok result forest => exact Iff.rfl
  | error cause forest => exact Iff.rfl

/-- Reading the forest of the world. -/
@[simp]
theorem ensures_forest {world : World} {done : Forest → World → Prop}
    {failed : Failure → World → Prop} :
    Ensures Build.forest world done failed ↔ done world.forest world := Iff.rfl

end MarkupSpec
