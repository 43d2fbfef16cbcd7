import MarkupSpec.Proofs.Flatten.ShiftedWorlds

/-!
# What flattening a value comes to

Where functions have nothing to go by that was not made before (`World.Provides`), what a value
without streams comes to depends on nothing that is made later: not on other streams, and not on
how many functions and things there are (`yields_flatten`).  So it may be told beforehand
(`World.yield?`).

It follows that attributes may be flattened in any order.  The same texts are found, and as many
streams, functions and things are made on the way (`flattenAttributes_perm`).
-/

namespace MarkupSpec

open Build

/-- What flattening a value comes to: its text, if it has one, and how many functions and things
and how many streams are made on the way. -/
structure Yield where
  text : Option String
  ids : Nat
  streams : Nat

/-- All that functions may go by was made before: the arguments that they are called with, and
the values that have a name. -/
structure World.Provides (base : World) (arguments : List Value) : Prop where
  names : ∀ entry ∈ base.names, entry.2.predates base.nextId
  arguments : ∀ argument ∈ arguments, argument.predates base.nextId

/-- A world has the forest and the names of an earlier one. -/
structure World.Since (base world : World) : Prop where
  forest : world.forest = base.forest
  names : world.names = base.names
  nextId : base.nextId ≤ world.nextId

/-- A world comes to have more streams, functions and things, and to have nothing else than before
but for what is logged and noticed. -/
structure World.Adds (ids streams : Nat) (before after : World) : Prop where
  forest : after.forest = before.forest
  names : after.names = before.names
  nextId : after.nextId = before.nextId + ids
  streams : ∃ more : Array (List Value), after.streams = before.streams ++ more ∧
    more.size = streams

namespace World

variable {base world middle after : World} {ids ids' streams streams' : Nat}

theorem Adds.refl (world : World) : Adds 0 0 world world :=
  ⟨rfl, rfl, rfl, #[], (Array.append_empty).symm, rfl⟩

theorem Adds.trans (onFirst : Adds ids streams world middle)
    (onSecond : Adds ids' streams' middle after) :
    Adds (ids + ids') (streams + streams') world after := by
  obtain ⟨more, isMore, size⟩ := onFirst.streams
  obtain ⟨more', isMore', size'⟩ := onSecond.streams
  refine ⟨onSecond.forest.trans onFirst.forest, onSecond.names.trans onFirst.names, ?_,
    more ++ more', ?_, ?_⟩
  · rw [onSecond.nextId, onFirst.nextId, Nat.add_assoc]
  · rw [isMore', isMore, Array.append_assoc]
  · rw [Array.size_append, size, size']

theorem Since.adds (since : base.Since world) (adds : Adds ids streams world after) :
    base.Since after where
  forest := adds.forest.trans since.forest
  names := adds.names.trans since.names
  nextId := by
    rw [adds.nextId]
    exact Nat.le_add_right_of_le since.nextId

/-- What a value comes to since a world, where functions are called with some arguments. -/
def yield? (base : World) (arguments : List Value) (value : Value) : Option Yield :=
  match flatten arguments value { base with streams := #[] } with
  | .ok text after =>
      some { text, ids := after.nextId - base.nextId, streams := after.streams.size }
  | .error .. => none

/-- How far a world is ahead of an earlier one that had made no streams. -/
def ahead (base world : World) : Shift where
  forest := base.forest
  names := base.names
  bound := base.nextId
  ids := world.nextId - base.nextId
  streams := world.streams

theorem Since.shifted (since : base.Since world)
    (early : ∀ entry ∈ base.names, entry.2.predates base.nextId) :
    Shifted (base.ahead world) { base with streams := #[] } world where
  forest := rfl
  forest' := since.forest
  names := rfl
  names' := since.names
  early := early
  bound := Nat.le_refl _
  nextId := (Nat.add_sub_cancel' since.nextId).symm
  streams := by simp [ahead]

end World

section Yields

variable {base world world' after : World} {arguments : List Value} {value : Value}
  {nodes : NodeId → Bool} (provides : base.Provides arguments)

include provides

/-- A value that holds no stream comes to what can be told beforehand. -/
theorem yields_flatten (since : base.Since world) (isStill : value.isStill (fun _ => true) nodes) :
    match base.yield? arguments value with
    | some yield => ∃ after, flatten arguments value world = .ok yield.text after ∧
        World.Adds yield.ids yield.streams world after
    | none => ∃ cause after, flatten arguments value world = .error cause after := by
  have echoes : Echoes (base.ahead world).likeness Eq
      (flatten arguments value { base with streams := #[] })
      (flatten arguments (value.renumbered ⟨id, (base.ahead world).numbers.stream⟩) world) :=
    shifted_flattenWithin provides.arguments nestingBudget value ⟨id, _⟩ rfl _ _
      (since.shifted provides.names)
  rw [Value.renumbered_of_isStill (fun _ _ => rfl) value isStill] at echoes
  unfold World.yield?
  generalize flatten arguments value { base with streams := #[] } = early at echoes ⊢
  generalize flatten arguments value world = late at echoes ⊢
  cases echoes with
  | @ok text _ state state' same shifted =>
      subst same
      have nextId : state'.nextId = world.nextId + (state.nextId - base.nextId) := by
        have bound : base.nextId ≤ state.nextId := shifted.bound
        have isNext : state'.nextId = state.nextId + (world.nextId - base.nextId) := shifted.nextId
        have := since.nextId
        omega
      exact ⟨state', rfl, shifted.forest'.trans since.forest.symm,
        shifted.names'.trans since.names.symm, nextId, _, shifted.streams, Array.size_map⟩
  | failed => exact ⟨_, _, rfl⟩
  | excused excuse => exact excuse.elim

theorem yield_of_flatten (since : base.Since world) (isStill : value.isStill (fun _ => true) nodes)
    {text : Option String} (run : flatten arguments value world = .ok text after) :
    ∃ yield, base.yield? arguments value = some yield ∧ yield.text = text ∧
      World.Adds yield.ids yield.streams world after := by
  have yields := yields_flatten provides since isStill
  cases there : base.yield? arguments value with
  | none =>
      rw [there] at yields
      obtain ⟨_, _, fails⟩ := yields
      rw [run] at fails
      cases fails
  | some yield =>
      rw [there] at yields
      obtain ⟨_, run', adds⟩ := yields
      rw [run] at run'
      cases run'
      exact ⟨yield, rfl, rfl, adds⟩

end Yields

/-! ## Attributes -/

/-- The text of an attribute, if it has one, by its key. -/
def World.attribute? (base : World) (arguments : List Value) (entry : String × Value) :
    Option (String × String) :=
  ((base.yield? arguments entry.2).bind Yield.text).map fun text => (entry.1, text)

theorem keys_of_attribute? {base : World} {arguments : List Value} :
    ∀ attributes : RawAttributes,
      ((attributes.filterMap (base.attribute? arguments)).map Prod.fst).Sublist
        (attributes.map Prod.fst)
  | [] => .slnil
  | entry :: rest => by
      have later : ((rest.filterMap (base.attribute? arguments)).map Prod.fst).Sublist
          (rest.map Prod.fst) := keys_of_attribute? rest
      rw [List.filterMap_cons]
      split
      · exact later.cons _
      · rename_i text isText
        obtain ⟨_, -, rfl⟩ := Option.map_eq_some_iff.mp isText
        exact later.cons_cons _

/-- How much is made of some kind when attributes are flattened. -/
def World.total (base : World) (arguments : List Value) (kind : Yield → Nat)
    (attributes : RawAttributes) : Nat :=
  attributes.foldr (fun entry rest => (base.yield? arguments entry.2).elim 0 kind + rest) 0

section Attributes

variable {base world world' after : World} {arguments : List Value}
  {attributes attributes' : RawAttributes} {texts : List (String × String)}
  {nodes : NodeId → Bool} (provides : base.Provides arguments)

include provides

/-- Attributes come to the texts and the numbers that can be told beforehand. -/
theorem yields_of_flattenAttributes (since : base.Since world)
    (areStill : ∀ entry ∈ attributes, entry.2.isStill (fun _ => true) nodes)
    (run : flattenAttributes pure arguments attributes world = .ok texts after) :
    (∀ entry ∈ attributes, (base.yield? arguments entry.2).isSome) ∧
      texts = attributes.filterMap (base.attribute? arguments) ∧
      World.Adds (base.total arguments Yield.ids attributes)
        (base.total arguments Yield.streams attributes) world after := by
  induction attributes generalizing world texts with
  | nil =>
      cases run
      exact ⟨List.forall_mem_nil _, rfl, .refl _⟩
  | cons entry others ih =>
      rw [List.forall_mem_cons] at areStill
      obtain ⟨text, middle, flattens, run⟩ := bind_eq_ok.mp run
      obtain ⟨yield, yields, rfl, adds⟩ :=
        yield_of_flatten provides since areStill.1 flattens
      have onward {texts} (run : flattenAttributes pure arguments others middle = .ok texts after) :
          (∀ other ∈ entry :: others, (base.yield? arguments other.2).isSome) ∧
            texts = others.filterMap (base.attribute? arguments) ∧
            World.Adds (base.total arguments Yield.ids (entry :: others))
              (base.total arguments Yield.streams (entry :: others)) world after := by
        obtain ⟨all, isTexts, adds'⟩ := ih (since.adds adds) areStill.2 run
        refine ⟨List.forall_mem_cons.mpr ⟨by rw [yields]; rfl, all⟩, isTexts, ?_⟩
        simp only [World.total, List.foldr_cons, yields]
        exact adds.trans adds'
      cases isText : yield.text with
      | none =>
          rw [isText] at run
          obtain ⟨all, rfl, adds⟩ := onward run
          exact ⟨all, by simp [World.attribute?, yields, isText], adds⟩
      | some text =>
          rw [isText] at run
          obtain ⟨_, _, isKey, run⟩ := bind_eq_ok.mp run
          cases isKey
          obtain ⟨_, _, run, rest⟩ := bind_eq_ok.mp run
          cases rest
          obtain ⟨all, rfl, adds⟩ := onward run
          exact ⟨all, by simp [World.attribute?, yields, isText], adds⟩

/-- Attributes come to texts if each of them comes to something. -/
theorem flattenAttributes_of_yields (since : base.Since world)
    (areStill : ∀ entry ∈ attributes, entry.2.isStill (fun _ => true) nodes)
    (all : ∀ entry ∈ attributes, (base.yield? arguments entry.2).isSome) :
    ∃ texts after, flattenAttributes pure arguments attributes world = .ok texts after := by
  induction attributes generalizing world with
  | nil => exact ⟨_, _, rfl⟩
  | cons entry rest ih =>
      rw [List.forall_mem_cons] at areStill all
      obtain ⟨yield, yields⟩ := Option.isSome_iff_exists.mp all.1
      have flattens := yields_flatten provides since areStill.1
      rw [yields] at flattens
      obtain ⟨middle, flattens, adds⟩ := flattens
      obtain ⟨texts, after, run⟩ := ih (since.adds adds) areStill.2 all.2
      unfold flattenAttributes
      cases isText : yield.text with
      | none =>
          rw [isText] at flattens
          exact ⟨texts, after, bind_eq_ok.mpr ⟨none, middle, flattens, run⟩⟩
      | some text =>
          rw [isText] at flattens
          refine ⟨(entry.1, text) :: texts, after, bind_eq_ok.mpr ⟨some text, middle, flattens, ?_⟩⟩
          exact bind_eq_ok.mpr ⟨entry.1, middle, rfl, bind_eq_ok.mpr ⟨texts, after, run, rfl⟩⟩

/-- Attributes in another order come to the same texts in another order, and as much is made on
the way. -/
theorem flattenAttributes_perm (perm : attributes.Perm attributes') (since : base.Since world)
    (since' : base.Since world')
    (areStill : ∀ entry ∈ attributes, entry.2.isStill (fun _ => true) nodes)
    (run : flattenAttributes pure arguments attributes world = .ok texts after) :
    ∃ texts' after' ids streams,
      flattenAttributes pure arguments attributes' world' = .ok texts' after' ∧
      texts.Perm texts' ∧ World.Adds ids streams world after ∧
      World.Adds ids streams world' after' := by
  have areStill' : ∀ entry ∈ attributes', entry.2.isStill (fun _ => true) nodes :=
    fun entry among => areStill entry (perm.mem_iff.mpr among)
  obtain ⟨all, rfl, adds⟩ := yields_of_flattenAttributes provides since areStill run
  obtain ⟨texts', after', run'⟩ := flattenAttributes_of_yields provides since' areStill'
    fun entry among => all entry (perm.mem_iff.mpr among)
  obtain ⟨-, rfl, adds'⟩ := yields_of_flattenAttributes provides since' areStill' run'
  have same (kind : Yield → Nat) : base.total arguments kind attributes' =
      base.total arguments kind attributes := by
    refine (perm.foldr_eq' (fun entry _ other _ rest => ?_) 0).symm
    exact Nat.add_left_comm _ _ rest
  rw [same, same] at adds'
  exact ⟨_, after', _, _, run', perm.filterMap _, adds, adds'⟩

end Attributes

end MarkupSpec
