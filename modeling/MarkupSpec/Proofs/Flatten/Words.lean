import MarkupSpec.Proofs.Build.Outcome
import MarkupSpec.Proofs.Flatten.Idempotence
import MarkupSpec.Proofs.Flatten.ShiftedWorlds

/-!
# The words of a list

A list is flattened to the words of its members, and a member that is a list again to a text that
is joined from words.  A text that is joined from words stands for them in a longer row of words
(`joinWords_consWord`).  So what comes to the words of some members may stand in their place
(`echoes_nested`): it is only that members which stand deeper need more of the budget, and with a
greater budget they come to the same (`patient_flattenWithin`).

In this way lists and tuples can be taken apart at every depth, and absent values dropped, without
any difference (`flattening_held`, `flattening_leavesAll`).  A list comes to the texts of its members
that are not empty, one after the other (`ends_iff_tells`).
-/

namespace MarkupSpec

open Build Flatten

/-! ## Joining words -/

/-- The texts that there are, with a blank between them. -/
def joinTexts : Option String → Option String → Option String
  | none, text => text
  | text, none => text
  | some first, some second => some (first ++ " " ++ second)

theorem joinWords_append (firsts seconds : List String) :
    joinWords (firsts ++ seconds) = joinTexts (joinWords firsts) (joinWords seconds) := by
  match firsts, seconds with
  | [], seconds => cases seconds <;> rfl
  | first :: firsts, [] => simp [joinWords, joinTexts]
  | first :: firsts, second :: seconds =>
      simp only [joinWords, List.cons_append, List.isEmpty_cons, Bool.false_eq_true, if_false,
        joinTexts]
      rw [← List.cons_append, String.intercalate_append_of_ne_nil (by simp) (by simp)]

/-- A text that is joined from words stands for them. -/
theorem joinWords_consWord {words : List String} (noneEmpty : NoneEmpty words) (rest : List String) :
    joinWords (consWord (joinWords words) rest) = joinWords (words ++ rest) := by
  cases words with
  | nil => rfl
  | cons word words =>
      have isText : " ".intercalate (word :: words) ≠ "" := fun isEmpty =>
        noneEmpty.joinWords (congrArg some isEmpty)
      have joined : joinWords (word :: words) = some (" ".intercalate (word :: words)) := rfl
      rw [joinWords_append (word :: words), joined]
      simp only [consWord, if_neg isText]
      exact joinWords_append [" ".intercalate (word :: words)] rest

/-! ## Words of several lists -/

section Words

variable {one : Value → Build (Option String)}

theorem words_append (firsts seconds : List Value) :
    words one (firsts ++ seconds) =
      (do let front ← words one firsts; return front ++ (← words one seconds)) := by
  induction firsts with
  | nil => simp [words]
  | cons value rest ih =>
      simp only [List.cons_append, words, ih, bind_assoc, pure_bind]
      refine bind_congr fun text => bind_congr fun front => bind_congr fun back => ?_
      unfold consWord
      split
      · split <;> rfl
      · rfl

variable {arguments : Build (List Value)} {budget : Nat}

theorem flattenWithin_stream (id : Nat) :
    flattenWithin arguments (budget + 1) (.stream id) =
      (do
        let items ← remaining id
        return joinWords (← streamWords (flattenWithin arguments budget) id items.length)) := rfl

theorem flattenWithin_list (items : List Value) :
    flattenWithin arguments (budget + 1) (.list items) =
      (do return joinWords (← words (flattenWithin arguments budget) items)) := by
  cases items <;> rfl

theorem flattenWithin_tuple (items : List Value) :
    flattenWithin arguments (budget + 1) (.tuple items) =
      (do return joinWords (← words (flattenWithin arguments budget) items)) := by
  cases items <;> rfl

end Words

/-! ## Budgets -/

/-- A run that uses up its budget is excused.  Otherwise both runs are the same. -/
def patient : Likeness Failure World where
  excuse := (· = .exhausted)
  causes := Eq
  states := Eq

section Budgets

variable {α β : Type}

theorem patient_refl (step : Build α) : Echo patient Eq step step :=
  Echo.refl Iff.rfl (fun _ => rfl) step

/-- Where the first steps end, so do steps that follow them patiently. -/
theorem Ends.followed {steps steps' : Nat → Build α} {world : World}
    {outcome : EStateM.Result Failure World α} (ends : Ends steps world outcome)
    (follows : ∀ budget, ∃ budget', Echo patient Eq (steps budget) (steps' budget')) :
    Ends steps' world outcome := by
  obtain ⟨budget, rfl, finishes⟩ := ends
  obtain ⟨budget', echo⟩ := follows budget
  have same := (echo world world rfl).eq id id fun cause isExhausted after => isExhausted ▸ finishes after
  exact ⟨budget', same.symm, finishes⟩

theorem echo_streamWords {like : Likeness Failure World} {one one' : Value → Build (Option String)}
    {id : Nat} (takes : Echo like Eq (takeNext id) (takeNext id))
    (each : ∀ value, Echo like Eq (one value) (one' value)) (most : Nat) :
    Echo like Eq (streamWords one id most) (streamWords one' id most) := by
  induction most with
  | zero => exact Echo.pure rfl
  | succ most ih =>
      refine takes.bind_same fun item => ?_
      cases item with
      | none => exact Echo.pure rfl
      | some value => exact (each value).bind_same fun _ => ih.bind_same fun _ => Echo.pure rfl

/-- With a greater budget a value comes to the same. -/
theorem patient_flattenWithin (arguments : Build (List Value)) (more : Nat) :
    ∀ (budget : Nat) (value : Value),
      Echo patient Eq (flattenWithin arguments budget value)
        (flattenWithin arguments (budget + more) value)
  | 0, _ => Echo.excused rfl _
  | budget + 1, value => by
      have each := patient_flattenWithin arguments more budget
      have all (values : List Value) : List.Forall₂ (fun value value' =>
          Echo patient Eq (flattenWithin arguments budget value)
            (flattenWithin arguments (budget + more) value')) values values :=
        List.forall₂_same.mpr fun value _ => each value
      rw [Nat.succ_add]
      unfold flattenWithin
      refine (patient_refl _).bind_same fun isAbsent => ?_
      split
      · exact Echo.pure rfl
      cases value with
      | map entries =>
          refine (patient_refl _).bind_same fun describe => ?_
          refine (echo_entryWords (List.forall₂_same.mpr fun entry _ => ?_)).bind_same
            fun _ => Echo.pure rfl
          exact .of_key rfl (each entry.2)
      | function callee =>
          refine (patient_refl _).bind_same fun given => ?_
          exact (patient_refl _).bind_same each
      | set =>
          refine (patient_refl _).bind_same fun describe => ?_
          exact (echo_words (all _)).bind_same fun _ => Echo.pure rfl
      | list | tuple | range => exact (echo_words (all _)).bind_same fun _ => Echo.pure rfl
      | stream =>
          refine (patient_refl _).bind_same fun items => ?_
          exact (echo_streamWords (patient_refl _) each _).bind_same fun _ => Echo.pure rfl
      | _ => exact patient_refl _

theorem patient_words (arguments : Build (List Value)) (budget more : Nat) (values : List Value) :
    Echo patient Eq (words (flattenWithin arguments budget) values)
      (words (flattenWithin arguments (budget + more)) values) :=
  echo_words (List.forall₂_same.mpr fun value _ => patient_flattenWithin arguments more budget value)

end Budgets

/-! ## A group in the place of its members -/

/-- A list is flattened within a budget. -/
def flattening (arguments : List Value) (items : List Value) (budget : Nat) :
    Build (Option String) :=
  flattenWithin (pure arguments) budget (.list items)

/-- A list that is put together from two lists is flattened like the first one and then, if that ends
well, the second one in the world that the first one leaves. -/
theorem flattening_append (arguments xs ys : List Value) (budget : Nat) :
    flattening arguments (xs ++ ys) budget =
      (do
        let first ← flattening arguments xs budget
        let second ← flattening arguments ys budget
        return joinTexts first second) := by
  cases budget with
  | zero => rfl
  | succ budget =>
      simp only [flattening, flattenWithin_list, words_append, bind_assoc, pure_bind,
        joinWords_append]

/-- The members of a group are flattened within a smaller budget than those around it. -/
def flatteningMixed (arguments : List Value) (front middle back : List Value) (more budget : Nat) :
    Build (Option String) := do
  let around := flattenWithin (pure arguments) (budget + more)
  let frontWords ← words around front
  let middleWords ← words (flattenWithin (pure arguments) budget) middle
  let backWords ← words around back
  return joinWords (frontWords ++ (middleWords ++ backWords))

section Mixed

variable (arguments front middle back : List Value) (more budget : Nat)

theorem flattening_three : flattening arguments (front ++ (middle ++ back)) (budget + 1) =
    (do
      let around := flattenWithin (pure arguments) budget
      let frontWords ← words around front
      let middleWords ← words around middle
      let backWords ← words around back
      return joinWords (frontWords ++ (middleWords ++ backWords))) := by
  rw [flattening, flattenWithin_list, words_append]
  simp only [words_append middle, bind_assoc, pure_bind]

theorem patient_flattening : Echo patient Eq (flattening arguments (front ++ (middle ++ back)) budget)
    (flatteningMixed arguments front middle back more budget) := by
  cases budget with
  | zero => exact Echo.excused rfl _
  | succ budget =>
      rw [flattening_three]
      have around := patient_words (pure arguments) budget (1 + more)
      rw [← Nat.add_assoc] at around
      refine (around front).bind_same fun _ => ?_
      refine (patient_words _ budget 1 middle).bind_same fun _ => ?_
      exact (around back).bind_same fun _ => Echo.pure rfl

theorem patient_flatteningMixed : Echo patient Eq
    (flatteningMixed arguments front middle back more budget)
    (flattening arguments (front ++ (middle ++ back)) (budget + more + 1)) := by
  rw [flattening_three]
  refine (patient_refl _).bind_same fun _ => ?_
  refine (patient_words _ budget more middle).bind_same fun _ => ?_
  exact (patient_refl _).bind_same fun _ => Echo.pure rfl

end Mixed

theorem bind_run {ε σ α β : Type} {step : EStateM ε σ α} {next : α → EStateM ε σ β}
    {start state : σ} {result : α} (run : step start = .ok result state) :
    (step >>= next) start = next result state := by
  simp only [Bind.bind, EStateM.bind, run]

/-- The second likeness asks less than the first one. -/
structure Likeness.Weakens {ε σ : Type} (like like' : Likeness ε σ) : Prop where
  excuse : ∀ cause, like.excuse cause → like'.excuse cause
  causes : ∀ cause cause', like.causes cause cause' → like'.causes cause cause'
  states : ∀ state state', like.states state state' → like'.states state state'

/-- A run that is echoed may go on with a step that is echoed with less asked of it. -/
theorem Echoes.bind_weaker {ε σ α α' β β' : Type} {like like' : Likeness ε σ}
    {done : α → α' → Prop} {last : β → β' → Prop} {first : EStateM ε σ α}
    {second : EStateM ε σ α'} {start start' : σ} {next : α → EStateM ε σ β}
    {next' : α' → EStateM ε σ β'} (weakens : like.Weakens like')
    (echoes : Echoes like done (first start) (second start'))
    (onNext : ∀ result result' state state', done result result' → like.states state state' →
      Echoes like' last (next result state) (next' result' state')) :
    Echoes like' last ((first >>= next) start) ((second >>= next') start') := by
  simp only [Bind.bind, EStateM.bind]
  generalize first start = outcome at echoes ⊢
  generalize second start' = outcome' at echoes ⊢
  cases echoes with
  | ok holds goes => exact onNext _ _ _ _ holds goes
  | failed alike goes => exact .failed (weakens.causes _ _ alike) (weakens.states _ _ goes)
  | excused excuse => exact .excused (weakens.excuse _ excuse)

/-- A text stands for the words that it is joined from. -/
def Stated (text : Option String) (words : List String) : Prop :=
  text = joinWords words ∧ NoneEmpty words

section Groups

variable {arguments front back ys : List Value} {group : Value} {more budget : Nat}
  {like like' : Likeness Failure World} {world world' : World}

/-- A list with a group in it is flattened like the list with its members in the place of it, if
the group comes to the words of its members. -/
theorem echoes_nested (weakens : like.Weakens like')
    (onFront : Echoes like Eq (words (flattenWithin (pure arguments) (budget + more)) front world)
      (words (flattenWithin (pure arguments) (budget + more)) front world'))
    (onGroup : ∀ start start', like.states start start' → Echoes like' Stated
      (flattenWithin (pure arguments) (budget + more) group start)
      (words (flattenWithin (pure arguments) budget) ys start'))
    (onBack : Echo like' Eq (words (flattenWithin (pure arguments) (budget + more)) back)
      (words (flattenWithin (pure arguments) (budget + more)) back)) :
    Echoes like' Eq (flattening arguments (front ++ group :: back) (budget + more + 1) world)
      (flatteningMixed arguments front ys back more budget world') := by
  rw [flattening, flattenWithin_list, words_append]
  simp only [words, bind_assoc, pure_bind]
  refine onFront.bind_weaker weakens ?_
  rintro frontWords _ start start' rfl goes
  refine (onGroup start start' goes).bind fun text _ middleWords _ _ _ stated goes => ?_
  refine (onBack.bind_same fun backWords => Echo.pure ?_) _ _ goes
  rw [stated.1, joinWords_append, joinWords_consWord stated.2, ← joinWords_append]

/-- Words that are echoed are joined to a text that is echoed by them. -/
theorem stated_of_echoes {like : Likeness Failure World} {step step' : Build (List String)}
    {world world' : World}
    (noneEmpty : ∀ found after, step world = .ok found after → NoneEmpty found)
    (echoes : Echoes like Eq (step world) (step' world')) :
    Echoes like Stated ((do return joinWords (← step)) world) (step' world') := by
  simp only [Bind.bind, EStateM.bind]
  generalize step world = outcome at noneEmpty echoes ⊢
  generalize step' world' = outcome' at echoes ⊢
  cases echoes with
  | ok same goes => exact .ok ⟨congrArg joinWords same, same ▸ noneEmpty _ _ rfl⟩ goes
  | failed alike goes => exact .failed alike goes
  | excused excuse => exact .excused excuse

theorem flattenWithin_of_isAbsent {arguments : Build (List Value)} {value : Value}
    (isAbsent : value.isAbsent) (budget : Nat) :
    flattenWithin arguments (budget + 1) value = pure none := by
  unfold flattenWithin
  rw [absent_of_isAbsent isAbsent, pure_bind]
  rfl

end Groups

/-! ## Ends that are alike -/

/-- Runs end alike: with the same result or for the same cause, in states that go together. -/
def exactly (states : World → World → Prop) : Likeness Failure World where
  excuse := fun _ => False
  causes := Eq
  states := states

/-- Whatever the first steps end in, the second ones end in what is alike, and the other way
round. -/
structure EndAlike {α : Type} (states : World → World → Prop) (steps steps' : Nat → Build α)
    (world world' : World) : Prop where
  forth : ∀ outcome, Ends steps world outcome →
    ∃ outcome', Ends steps' world' outcome' ∧ Echoes (exactly states) Eq outcome outcome'
  back : ∀ outcome', Ends steps' world' outcome' →
    ∃ outcome, Ends steps world outcome ∧ Echoes (exactly states) Eq outcome outcome'

section Ends

variable {states : World → World → Prop}

theorem exactly_weakens {states' : World → World → Prop}
    (weaker : ∀ state state', states state state' → states' state state') :
    (exactly states).Weakens (exactly states') :=
  ⟨fun _ => id, fun _ _ => id, weaker⟩

theorem Echoes.weaken {ε σ α α' : Type} {like like' : Likeness ε σ} {done : α → α' → Prop}
    {outcome : EStateM.Result ε σ α} {outcome' : EStateM.Result ε σ α'}
    (echoes : Echoes like done outcome outcome') (weakens : like.Weakens like') :
    Echoes like' done outcome outcome' :=
  echoes.mono (fun _ _ => id) weakens.excuse weakens.causes weakens.states

/-- Of two runs that are alike one uses up its budget if the other one does. -/
theorem Echoes.exhausted {α : Type} {outcome outcome' : EStateM.Result Failure World α}
    (echoes : Echoes (exactly states) Eq outcome outcome') :
    (∃ after, outcome = .error .exhausted after) ↔ ∃ after, outcome' = .error .exhausted after := by
  cases echoes with
  | ok => simp
  | failed alike =>
      obtain rfl := alike
      simp
  | excused excuse => exact excuse.elim

variable {arguments front back ys : List Value} {group : Value} {world world' : World}

/-- If a list with a group in it is flattened like the list with its members in the place of it,
both end alike. -/
theorem endAlike_of_echoes (more : Nat) (echoes : ∀ budget, Echoes (exactly states) Eq
      (flattening arguments (front ++ group :: back) (budget + more + 1) world)
      (flatteningMixed arguments front ys back more budget world')) :
    EndAlike states (flattening arguments (front ++ group :: back))
      (flattening arguments (front ++ (ys ++ back))) world world' where
  forth := by
    intro outcome ends
    have later : Ends (fun budget => flattening arguments (front ++ group :: back)
        (budget + more + 1)) world outcome :=
      ends.followed fun budget => ⟨budget, patient_flattenWithin _ (more + 1) budget _⟩
    obtain ⟨budget, rfl, finishes⟩ := later
    have alike := echoes budget
    have mixed : Ends (flatteningMixed arguments front ys back more) world' _ :=
      ⟨budget, rfl, fun after isExhausted =>
        (alike.exhausted.mpr ⟨after, isExhausted⟩).elim finishes⟩
    have flat : Ends (flattening arguments (front ++ (ys ++ back))) world' _ :=
      mixed.followed fun budget => ⟨_, patient_flatteningMixed arguments front ys back more budget⟩
    exact ⟨_, flat, alike⟩
  back := by
    intro outcome' ends
    have mixed : Ends (flatteningMixed arguments front ys back more) world' outcome' :=
      ends.followed fun budget => ⟨budget, patient_flattening arguments front ys back more budget⟩
    obtain ⟨budget, rfl, finishes⟩ := mixed
    have alike := echoes budget
    refine ⟨_, ⟨budget + more + 1, rfl, fun after isExhausted => ?_⟩, alike⟩
    exact (alike.exhausted.mp ⟨after, isExhausted⟩).elim finishes

end Ends

/-! ## Members of a list or a tuple -/

/-- Nothing is asked of the members of a list or a tuple, nor of an absent value. -/
theorem flattening_held {arguments front back ys : List Value} {group : Value}
    (holds : group = .list ys ∨ group = .tuple ys ∨ group.isAbsent ∧ ys = []) (world : World)
    (outcome : EStateM.Result Failure World (Option String)) :
    Ends (flattening arguments (front ++ group :: back)) world outcome ↔
      Ends (flattening arguments (front ++ (ys ++ back))) world outcome := by
  have same (step : Build (List String)) : Echo (exactly Eq) Eq step step :=
    Echo.refl Iff.rfl (fun _ => rfl) step
  have alike : EndAlike Eq (flattening arguments (front ++ group :: back))
      (flattening arguments (front ++ (ys ++ back))) world world := by
    refine endAlike_of_echoes 1 fun budget => ?_
    refine echoes_nested (exactly_weakens fun _ _ => id) (same _ _ _ rfl) ?_ (same _)
    rintro start _ rfl
    obtain rfl | rfl | ⟨isAbsent, rfl⟩ := holds
    · rw [flattenWithin_list]
      exact stated_of_echoes (fun _ _ => noneEmpty_words) (same _ _ _ rfl)
    · rw [flattenWithin_tuple]
      exact stated_of_echoes (fun _ _ => noneEmpty_words) (same _ _ _ rfl)
    · rw [flattenWithin_of_isAbsent isAbsent]
      exact .ok ⟨rfl, .nil⟩ rfl
  constructor
  · intro ends
    obtain ⟨_, ends', alike⟩ := alike.forth outcome ends
    exact (alike.eq id id nofun) ▸ ends'
  · intro ends
    obtain ⟨_, ends', alike⟩ := alike.back outcome ends
    exact (alike.eq id id nofun) ▸ ends'

/-! ## Words of a list that ends well -/

section Words

variable {arguments items : List Value} {world after : World} {text : Option String}
  {found : List String}

/-- With a greater budget values come to the same words. -/
theorem words_more {budget budget' : Nat} (more : budget ≤ budget')
    (run : words (flattenWithin (pure arguments) budget) items world = .ok found after) :
    words (flattenWithin (pure arguments) budget') items world = .ok found after := by
  have echoes := patient_words (pure arguments) budget (budget' - budget) items world world rfl
  rw [run, Nat.add_sub_cancel' more] at echoes
  obtain ⟨_, _, run', rfl, rfl⟩ := echoes.of_ok
  exact run'

/-- A list comes to what its words are joined to. -/
theorem ends_iff_words : Ends (flattening arguments items) world (.ok text after) ↔
    ∃ budget found, words (flattenWithin (pure arguments) budget) items world = .ok found after ∧
      text = joinWords found := by
  constructor
  · rintro ⟨budget, run, -⟩
    cases budget with
    | zero => cases run
    | succ budget =>
        rw [flattening, flattenWithin_list] at run
        obtain ⟨found, _, run, joined⟩ := bind_eq_ok.mp run
        cases joined
        exact ⟨budget, found, run, rfl⟩
  · rintro ⟨budget, found, run, rfl⟩
    refine ⟨budget + 1, ?_, nofun⟩
    rw [flattening, flattenWithin_list, bind_run run]
    rfl

theorem words_append_eq_ok {one : Value → Build (Option String)} {xs ys : List Value} :
    words one (xs ++ ys) world = .ok found after ↔ ∃ front middle back,
      words one xs world = .ok front middle ∧ words one ys middle = .ok back after ∧
        found = front ++ back := by
  rw [words_append, bind_eq_ok]
  constructor
  · rintro ⟨front, middle, onFirst, run⟩
    obtain ⟨back, _, onSecond, run⟩ := bind_eq_ok.mp run
    cases run
    exact ⟨front, middle, back, onFirst, onSecond, rfl⟩
  · rintro ⟨front, middle, back, onFirst, onSecond, rfl⟩
    exact ⟨front, middle, onFirst, bind_eq_ok.mpr ⟨back, after, onSecond, rfl⟩⟩

end Words

/-! ## Leaves -/

mutual

/-- What is left of a value when lists and tuples are taken apart and absent values are dropped, at
every depth. -/
def Value.leaves : Value → List Value
  | .list items | .tuple items => leavesAll items
  | value => if value.isAbsent then [] else [value]
termination_by structural value => value

def Value.leavesAll : List Value → List Value
  | [] => []
  | value :: rest => leaves value ++ leavesAll rest
termination_by structural values => values

end

section Leaves

variable {arguments : List Value} {world : World}
  {outcome : EStateM.Result Failure World (Option String)}

mutual

/-- A value in a list is flattened like its leaves. -/
theorem flattening_leaves : ∀ (value : Value) (front back : List Value),
    Ends (flattening arguments (front ++ value :: back)) world outcome ↔
      Ends (flattening arguments (front ++ (value.leaves ++ back))) world outcome
  | .list items, front, back => by
      rw [flattening_held (.inl rfl)]
      exact flattening_leavesAll items front back
  | .tuple items, front, back => by
      rw [flattening_held (.inr (.inl rfl))]
      exact flattening_leavesAll items front back
  | .null, front, back | .bool _, front, back | .int _, front, back | .float _, front, back
  | .nan _, front, back | .text _, front, back | .bytes .., front, back | .range .., front, back
  | .set .., front, back | .map _, front, back | .stream _, front, back | .thing .., front, back
  | .function _, front, back | .node _, front, back => by
      unfold Value.leaves
      split
      · next isAbsent => exact flattening_held (.inr (.inr ⟨isAbsent, rfl⟩)) world outcome
      · rfl
termination_by structural value => value

theorem flattening_leavesAll : ∀ (values front back : List Value),
    Ends (flattening arguments (front ++ (values ++ back))) world outcome ↔
      Ends (flattening arguments (front ++ (Value.leavesAll values ++ back))) world outcome
  | [], _, _ => Iff.rfl
  | value :: rest, front, back => by
      rw [List.cons_append, flattening_leaves value, ← List.append_assoc, flattening_leavesAll rest,
        Value.leavesAll, List.append_assoc, List.append_assoc]
termination_by structural values => values

end

end Leaves

/-! ## Words one after the other -/

/-- Values come to texts one after the other.  The texts that are not empty are kept. -/
inductive Tells (arguments : List Value) : List Value → World → List String → World → Prop
  | nil {world} : Tells arguments [] world [] world
  | cons {value rest world text middle found after} :
      Ends (flattenWithin (pure arguments) · value) world (.ok text middle) →
      Tells arguments rest middle found after →
      Tells arguments (value :: rest) world (consWord text found) after

section Telling

variable {arguments items : List Value} {world after : World} {found : List String}

theorem tells_of_words {budget : Nat}
    (run : words (flattenWithin (pure arguments) budget) items world = .ok found after) :
    Tells arguments items world found after := by
  induction items generalizing world found with
  | nil =>
      cases run
      exact .nil
  | cons value rest ih =>
      obtain ⟨text, middle, onValue, run⟩ := bind_eq_ok.mp run
      obtain ⟨others, _, onRest, run⟩ := bind_eq_ok.mp run
      cases run
      exact .cons ⟨budget, onValue, nofun⟩ (ih onRest)

theorem Tells.words (tells : Tells arguments items world found after) :
    ∃ budget, Flatten.words (flattenWithin (pure arguments) budget) items world = .ok found after := by
  induction tells with
  | nil => exact ⟨0, rfl⟩
  | @cons value rest world text middle found after ends _ ih =>
      obtain ⟨budget', onRest⟩ := ih
      obtain ⟨budget, onValue, -⟩ := ends
      have onValue : Flatten.words (flattenWithin (pure arguments) budget) [value] world =
          .ok (consWord text []) middle := bind_run onValue
      have onValue := words_more (Nat.le_max_left budget budget') onValue
      have onRest := words_more (Nat.le_max_right budget budget') onRest
      refine ⟨max budget budget', words_append_eq_ok.mpr ⟨_, _, _, onValue, onRest, ?_⟩⟩
      unfold consWord
      split
      · split <;> rfl
      · rfl

/-- A list comes to the texts of its members that are not empty, with a blank between each two. -/
theorem ends_iff_tells {text : Option String} :
    Ends (flattening arguments items) world (.ok text after) ↔
      ∃ found, Tells arguments items world found after ∧ text = joinWords found := by
  rw [ends_iff_words]
  constructor
  · rintro ⟨budget, found, run, rfl⟩
    exact ⟨found, tells_of_words run, rfl⟩
  · rintro ⟨found, tells, rfl⟩
    obtain ⟨budget, run⟩ := tells.words
    exact ⟨budget, found, run, rfl⟩

end Telling

end MarkupSpec
