import MarkupSpec.Proofs.Spec.Regrouping

/-!
# What a build comes to

A build has a budget for nesting.  It *ends* in an outcome if it comes to that for some budget,
and not because the budget is used up (`Ends`).  With a greater budget it then ends in the
same way.

Grouping does not matter for how a build ends (`compile_regrouped`): of two specs that are
regrouped from one another one ends if the other one does, and both with the same result or
failures of the same kind, and with the same forest.
-/

namespace MarkupSpec

open Build

/-! ## Builds with a budget -/

section Budgets

variable {terms : Terms} {settings : Settings} {spec spec' : Value}
  {where? : Option (Mode × Value)} {document arguments : Value} {given : List Value}
  {world world' : World}

/-- A regrouped spec is built alike, given some more steps to nest. -/
theorem compileWithin_regrouped (free : ¬ terms.levelled) (deep : terms.mayBeDeep)
    (noLimit : settings.maxDepth = none) (spreads : spread arguments = pure given)
    (areClear : AreClear terms given) (regrouped : Regrouped terms settings given spec spec')
    (even : world.Even terms world') :
    ∃ extra, ∀ budget budget', budget + extra ≤ budget' →
      Echoes terms.likeness (fun result result' => result' = result)
        (compileWithin budget settings spec where? document arguments world)
        (compileWithin budget' settings spec' where? document arguments world') := by
  have gives : Likewise terms.likeness (· = given) (spread arguments) (spread arguments) := by
    rw [spreads]
    exact likewise_pure rfl
  have prepared := likewise_prepare settings where? document gives world world' even
  cases run : prepare settings where? document arguments world with
  | error cause start =>
      refine ⟨0, fun _ _ _ => prepared.bind fun _ _ _ _ run' => ?_⟩
      rw [run] at run'
      cases run'
  | ok task start =>
      have ready : task.scene.settings = settings ∧ task.scene.arguments = given := by
        rw [run] at prepared
        obtain ⟨_, _, -, same, -⟩ := prepared.of_ok
        exact same.2
      obtain ⟨rfl, rfl⟩ := ready
      have loose : Loose terms task.scene := ⟨free, deep, noLimit, areClear⟩
      obtain ⟨extra, follows⟩ := regrouped.followed loose
      refine ⟨extra, fun budget budget' most => prepared.bind ?_⟩
      intro task' start' task'' start'' run' _ same even
      obtain ⟨rfl, rfl⟩ : task' = task ∧ start' = start := by
        rw [run] at run'
        cases run'
        exact ⟨rfl, rfl⟩
      obtain ⟨rfl, -⟩ := same
      have echo := follows budget budget' most { target := task''.target } _ (.refl _)
      exact (echo _ _ even).bind fun result _ result' _ _ _ same even =>
        .ok (congrArg (resultOr task''.fallback) same.1) even

/-- The terms on which regrouped specs are compared, with neither the depths of places nor what
was logged. -/
def regrouping (names : List (String × Value)) (aside : Nat → Option (List Value × List Value)) :
    Terms :=
  { names, aside, logged := False, levelled := False }

/-- A spec is built alike again in the same world, given some more steps to nest. -/
theorem compileWithin_again (noLimit : settings.maxDepth = none)
    (spreads : spread arguments = pure given) (spec document : Value)
    (where? : Option (Mode × Value)) (world : World) :
    ∃ extra, ∀ budget budget', budget + extra ≤ budget' →
      Echoes (regrouping world.names fun _ => none).likeness (fun result result' => result' = result)
        (compileWithin budget settings spec where? document arguments world)
        (compileWithin budget' settings spec where? document arguments world) := by
  have nothing (id : Nat) : (regrouping world.names fun _ => none).aside id = none := rfl
  exact compileWithin_regrouped id trivial noLimit spreads
    (fun _ _ => Value.isClear_of_nothing nothing _) (.same (Value.isClear_of_nothing nothing _))
    (.refl rfl nothing)

end Budgets

/-! ## Ends -/

/-- What the steps come to if their budget is large enough. -/
def Ends {α : Type} (steps : Nat → Build α) (world : World)
    (outcome : EStateM.Result Failure World α) : Prop :=
  ∃ budget, steps budget world = outcome ∧ ∀ after, outcome ≠ .error .exhausted after

/-- Failures of one kind, and worlds with the same forest. -/
def sameTree : Likeness Failure World where
  excuse := fun _ => False
  causes := fun cause cause' => cause'.kind = cause.kind
  states := fun world world' => world'.forest = world.forest

theorem Failure.eq_exhausted {cause : Failure} (same : cause.kind = Failure.exhausted.kind) :
    cause = .exhausted := by
  cases cause with
  | exhausted => rfl
  | edit cause =>
      cases cause with
      | badAttribute cause => cases cause <;> cases same
      | _ => cases same
  | _ => cases same

section Ends

variable {α : Type} {first second third : EStateM.Result Failure World α}

/-- What a run that does not use up its budget is echoed by does not use it up either. -/
theorem sameTree_of_echoes {terms : Terms}
    (echoes : Echoes terms.likeness (fun result result' => result' = result) first second)
    (finishes : ∀ after, first ≠ .error .exhausted after) :
    Echoes sameTree (fun result result' => result' = result) first second ∧
      ∀ after, second ≠ .error .exhausted after := by
  cases echoes with
  | ok same even => exact ⟨.ok same even.forest, fun _ => nofun⟩
  | failed alike even =>
      refine ⟨.failed alike.1 even.forest, ?_⟩
      rintro after ⟨rfl, rfl⟩
      exact finishes _ (by rw [Failure.eq_exhausted alike.1.symm])
  | excused excuse => exact absurd (by rw [excuse.2]) (finishes _)

/-- Two runs that are alike to a third one are alike. -/
theorem sameTree_meet (onFirst : Echoes sameTree (fun result result' => result' = result) first third)
    (onSecond : Echoes sameTree (fun result result' => result' = result) second third) :
    Echoes sameTree (fun result result' => result' = result) first second := by
  cases onFirst with
  | ok same forest =>
      cases onSecond with
      | ok same' forest' => exact .ok (same'.symm.trans same) (forest'.symm.trans forest)
      | excused excuse => cases excuse
  | failed same forest =>
      cases onSecond with
      | failed same' forest' => exact .failed (same'.symm.trans same) (forest'.symm.trans forest)
      | excused excuse => cases excuse
  | excused excuse => cases excuse

end Ends

/-! ## Grouping does not matter -/

section Regrouped

variable {settings : Settings} {spec spec' : Value} {where? : Option (Mode × Value)}
  {document arguments : Value} {given : List Value} {world world' : World}
  {names : List (String × Value)} {aside : Nat → Option (List Value × List Value)}

/-- Where the build of a spec ends, that of a regrouped one does too. -/
theorem ends_of_regrouped (noLimit : settings.maxDepth = none)
    (spreads : spread arguments = pure given) (areClear : AreClear (regrouping names aside) given)
    (regrouped : Regrouped (regrouping names aside) settings given spec spec')
    (even : world.Even (regrouping names aside) world')
    {outcome : EStateM.Result Failure World Value}
    (ends : Ends (compileWithin · settings spec where? document arguments) world outcome) :
    ∃ outcome', Ends (compileWithin · settings spec' where? document arguments) world' outcome' := by
  obtain ⟨budget, rfl, finishes⟩ := ends
  obtain ⟨extra, follows⟩ := compileWithin_regrouped id trivial noLimit spreads areClear regrouped even
  have echoes := follows budget (budget + extra) (Nat.le_refl _)
  exact ⟨_, _, rfl, (sameTree_of_echoes echoes finishes).2⟩

/-- Two specs that are regrouped from one another are built to ends that are alike. -/
theorem ends_alike (noLimit : settings.maxDepth = none)
    (spreads : spread arguments = pure given) (areClear : AreClear (regrouping names aside) given)
    (regrouped : Regrouped (regrouping names aside) settings given spec spec')
    (even : world.Even (regrouping names aside) world')
    {outcome outcome' : EStateM.Result Failure World Value}
    (ends : Ends (compileWithin · settings spec where? document arguments) world outcome)
    (ends' : Ends (compileWithin · settings spec' where? document arguments) world' outcome') :
    Echoes sameTree (fun result result' => result' = result) outcome outcome' := by
  obtain ⟨budget, rfl, finishes⟩ := ends
  obtain ⟨budget', rfl, finishes'⟩ := ends'
  obtain ⟨extra, follows⟩ := compileWithin_regrouped id trivial noLimit spreads areClear regrouped even
  obtain ⟨extra', again⟩ := compileWithin_again noLimit spreads spec' document where?
    world'
  -- Both come to what the second build comes to with a budget that is enough for both.
  have enough := follows budget (budget + extra + (budget' + extra')) (by omega)
  have enough' := again budget' (budget + extra + (budget' + extra')) (by omega)
  exact sameTree_meet (sameTree_of_echoes enough finishes).1 (sameTree_of_echoes enough' finishes').1

/-- Grouping does not matter.  Of two specs that are regrouped from one another, one is built to an
end if the other one is, and both end with the same result or with failures of the same kind,
and with the same forest. -/
theorem compile_regrouped (noLimit : settings.maxDepth = none)
    (spreads : spread arguments = pure given) (areClear : AreClear (regrouping names aside) given)
    (regrouped : Regrouped (regrouping names aside) settings given spec spec')
    (even : world.Even (regrouping names aside) world') :
    ((∃ outcome, Ends (compileWithin · settings spec where? document arguments) world outcome) ↔
      ∃ outcome, Ends (compileWithin · settings spec' where? document arguments) world' outcome) ∧
    ∀ outcome outcome',
      Ends (compileWithin · settings spec where? document arguments) world outcome →
      Ends (compileWithin · settings spec' where? document arguments) world' outcome' →
      Echoes sameTree (fun result result' => result' = result) outcome outcome' := by
  refine ⟨⟨?_, ?_⟩, ?_⟩
  · rintro ⟨outcome, ends⟩
    exact ends_of_regrouped noLimit spreads areClear regrouped even ends
  · rintro ⟨outcome, ends⟩
    have areClear' := fun item among => Terms.isClear_swapped (areClear item among)
    exact ends_of_regrouped noLimit spreads areClear' regrouped.swapped even.swapped ends
  · intro outcome outcome' ends ends'
    exact ends_alike noLimit spreads areClear regrouped even ends ends'

end Regrouped

/-- A function that gives what a name stands for does nothing else but log its calls. -/
theorem call_named {callee : Function} {name : String} {value : Value} {start : World}
    (body : callee.body = .named name []) (found : start.names.lookup name = some value)
    (arguments : List Value) :
    ∃ calls, callee.call arguments start = .ok value { start with calls } := by
  have gives (calls : Array Call) : Template.fill arguments (.named name []) { start with calls } =
      .ok value { start with calls } := by
    have got : (get : Build World) { start with calls } = .ok { start with calls } _ := rfl
    simp [Template.fill, Build.named, Bind.bind, EStateM.bind, got, found, Pure.pure, EStateM.pure]
  unfold Function.call
  rw [body]
  cases callee.label with
  | none => exact ⟨start.calls, gives _⟩
  | some => exact ⟨_, gives _⟩

/-- A function that gives what a name stands for is idle, where calls are not compared. -/
theorem idle_named {terms : Terms} {function : Function} {name : String} {value : Value}
    (body : function.body = .named name []) (found : terms.names.lookup name = some value)
    (unlogged : ¬ terms.logged) (given : List Value) :
    Idle terms (function.call given) value := by
  intro world names
  obtain ⟨calls, run⟩ := call_named body (names ▸ found) given
  exact ⟨_, run, rfl, rfl, rfl, rfl, fun logged => absurd logged unlogged⟩

/-- Four members of two sequences. -/
def ungrouped : Value :=
  .list [.map [(.null, .list [.text "p", .text "a", .text "b"])], .text "u", .text "v"]

/-- A function that gives what a name stands for. -/
def giver : Function := { id := 0, label := some "g", body := .named "run" [] }

/-- The same with the children of the element in a tuple, and the texts behind it in a list that a
function gives. -/
def grouped : Value :=
  .list [.map [(.null, .list [.text "p", .tuple [.text "a", .text "b"]])],
    .function giver]

/-- Both are built to the same three nodes before a node. -/
theorem compile_regrouped_grouped :
    let world := { worldAfter {} linkedRequests with
      names := [("run", .list [.text "u", .text "v"])] }
    endsIn (compile {} grouped (some (.before, .node 4)) .null (.list [])) world
      (fun result after => result.node? = some 13 ∧ after.forest.children 1 = [9, 12, 13, 4, 5])
      (fun _ _ => False) ∧
    ((∃ outcome, Ends (compileWithin · {} ungrouped (some (.before, .node 4)) .null (.list []))
        world outcome) ↔
      ∃ outcome, Ends (compileWithin · {} grouped (some (.before, .node 4)) .null (.list []))
        world outcome) ∧
    ∀ outcome outcome',
      Ends (compileWithin · {} ungrouped (some (.before, .node 4)) .null (.list [])) world outcome →
      Ends (compileWithin · {} grouped (some (.before, .node 4)) .null (.list [])) world outcome' →
      Echoes sameTree (fun result result' => result' = result) outcome outcome' := by
  intro world
  let names : List (String × Value) := [("run", .list [.text "u", .text "v"])]
  have nothing (id : Nat) : (regrouping names fun _ => none).aside id = none := rfl
  have isClear (value : Value) : value.isClear (regrouping names fun _ => none) :=
    Value.isClear_of_nothing nothing value
  have same (value : Value) : Regrouped (regrouping names fun _ => none) {} [] value value :=
    .same (isClear value)
  have pair (first second group : Value)
      (gathers : Gathers (regrouping names fun _ => none) [] group [first, second]) :
      RegroupedAll (regrouping names fun _ => none) {} [] ([first, second] ++ []) [group] :=
    .gathered gathers (.cons (same first) (.cons (same second) .nil)) .nil
  have element (slot : Value) (children : List Value)
      (found : explicitSlot? [(.null, slot)] = some slot)
      (held : slot.held? = some (.text "p" :: children)) :
      Value.IsReadAs {} (.map [(.null, slot)]) (.element (.text "p") [] children) := by
    have plain : specialKind? ({} : Settings).marker (.text "p") = none := by decide
    have reads : Value.IsReadAs {} _ _ := isReadAs_explicit found held
    rw [Spec.ofNamed, plain] at reads
    exact reads
  have children := pair (.text "a") (.text "b") (.tuple [.text "a", .text "b"]) (.held rfl)
  have gives : Idle (regrouping names fun _ => none) (giver.call [])
      (.list [.text "u", .text "v"]) := idle_named rfl rfl id []
  have texts := pair (.text "u") (.text "v") (.function giver) (.returned gives (.held rfl))
  have regrouped : Regrouped (regrouping names fun _ => none) {} [] ungrouped grouped := by
    refine .read (isReadAs_sequence rfl nofun) (isReadAs_sequence rfl nofun) (.sequence ?_)
    refine .cons (.read (element _ _ rfl rfl) (element _ _ rfl rfl) ?_) texts
    exact .element (isClear _) nofun children
  exact ⟨by decide +kernel,
    compile_regrouped rfl rfl (fun _ _ => isClear _) regrouped (.refl rfl nothing)⟩

end MarkupSpec
