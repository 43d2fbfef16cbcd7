import Mathlib.Algebra.BigOperators.Group.Finset.Basic
import Mathlib.Algebra.GroupWithZero.Nat
import MarkupSpec.Proofs.Build.EvenBuilds
import MarkupSpec.Proofs.Calls.Trace

/-!
# Every occurrence of a function is called once

A function may be found several times in a value (`Value.occurrences`), and in what the streams of a
world have left (`World.held`).  A step of a build uses up what it calls: the calls of a function,
together with the occurrences of it that are left after the step, are no more than the occurrences
that there were before, and those that came with what functions returned (`Account.Balances`).

Streams that nothing in the spec goes by may be left out of the account: they are set aside.
-/

namespace MarkupSpec

open Forest Edit Build

/-! ## Occurrences of a function -/

namespace Value

mutual

/-- How often a function is found in a value. -/
def occurrences (id : Nat) : Value → Nat
  | .list items | .tuple items | .set _ items => occurrencesAll id items
  | .map entries => occurrencesIn id entries
  | .function callee => if callee.id = id then 1 else 0
  | _ => 0
termination_by structural value => value

/-- How often a function is found in several values. -/
def occurrencesAll (id : Nat) : List Value → Nat
  | [] => 0
  | value :: rest => occurrences id value + occurrencesAll id rest
termination_by structural values => values

/-- How often a function is found in the keys and the values of a map. -/
def occurrencesIn (id : Nat) : List (Value × Value) → Nat
  | [] => 0
  | (key, value) :: rest => occurrences id key + occurrences id value + occurrencesIn id rest
termination_by structural entries => entries

end

variable {id : Nat} {values : List Value} {entries : Entries}

theorem occurrencesAll_eq_sum (id : Nat) (values : List Value) :
    occurrencesAll id values = (values.map (occurrences id)).sum := by
  induction values with
  | nil => rfl
  | cons value rest ih => rw [occurrencesAll, ih, List.map_cons, List.sum_cons]

/-- The order of values does not matter. -/
theorem occurrencesAll_of_perm {values' : List Value} (perm : values.Perm values') :
    occurrencesAll id values = occurrencesAll id values' := by
  rw [occurrencesAll_eq_sum, occurrencesAll_eq_sum]
  exact (perm.map _).sum_eq

theorem occurrencesAll_values_le (id : Nat) :
    ∀ entries : Entries, occurrencesAll id (entries.map Prod.snd) ≤ occurrencesIn id entries
  | [] => Nat.le_refl 0
  | (key, value) :: rest => by
      have later := occurrencesAll_values_le id rest
      simp only [List.map_cons, occurrencesAll, occurrencesIn]
      omega

theorem occurrences_rangeItems (start stop step : Int) :
    occurrencesAll id (rangeItems start stop step) = 0 := by
  rw [occurrencesAll_eq_sum, rangeItems, List.map_map]
  exact List.sum_eq_zero fun count among => by
    obtain ⟨_, -, rfl⟩ := List.mem_map.mp among
    rfl

end Value

open Value

/-- How often a function is found in what streams have left, apart from those set aside. -/
def World.held (terms : Terms) (id : Nat) (world : World) : Nat :=
  ∑ stream ∈ Finset.range world.streams.size,
    if (terms.aside stream).isSome then 0 else occurrencesAll id ((world.streams[stream]?).getD [])

/-- What a stream has left is held as long as it is left there. -/
theorem World.held_setRemaining {terms : Terms} {world : World} {stream : Nat} (id : Nat)
    (isClear : terms.aside stream = none) (inside : stream < world.streams.size)
    (items : List Value) :
    World.held terms id { world with streams := world.streams.modify stream fun _ => items } +
        occurrencesAll id ((world.streams[stream]?).getD []) =
      world.held terms id + occurrencesAll id items := by
  have among := Finset.mem_range.mpr inside
  have others : ∀ other ∈ (Finset.range world.streams.size).erase stream,
      (if (terms.aside other).isSome then 0
        else occurrencesAll id (((world.streams.modify stream fun _ => items)[other]?).getD [])) =
      if (terms.aside other).isSome then 0
        else occurrencesAll id ((world.streams[other]?).getD []) := by
    intro other isOther
    rw [Array.getElem?_modify, if_neg (Ne.symm (Finset.ne_of_mem_erase isOther))]
  have here : (world.streams.modify stream fun _ => items)[stream]? = some items := by
    rw [Array.getElem?_modify, if_pos rfl, Array.getElem?_eq_getElem inside]
    rfl
  simp only [held, Array.size_modify]
  rw [← Finset.add_sum_erase _ _ among, ← Finset.add_sum_erase _ _ among,
    Finset.sum_congr rfl others, here, isClear]
  simp only [Option.isSome_none, Bool.false_eq_true, if_false, Option.getD_some]
  omega

/-! ## The balance of a step -/

/-- Is the cause a matter of values, and not of a spec? -/
def Failure.isOfValue : Failure → Bool
  | .spec _ => false
  | _ => true

/-- By how much a call adds to the occurrences of a function: by those in what it returns, and in
the streams that it makes. -/
def Invocation.gain (terms : Terms) (id : Nat) (call : Invocation) : Nat :=
  (match call.function.call call.arguments call.world with
    | .ok value after => value.occurrences id + after.held terms id
    | .error _ after => after.held terms id) - call.world.held terms id

/-- What is looked at in the calls of a build. -/
structure Account where
  terms : Terms
  /-- The function whose calls are counted. -/
  callee : Nat
  /-- What functions are to be called with. -/
  arguments : List Value
  /-- What a step may fail for. -/
  fails : Failure → Prop
  ofValue : ∀ cause : Failure, cause.isOfValue → fails cause

namespace Account

variable (account : Account)

/-- The calls of the function. -/
def spent (calls : List Invocation) : Nat :=
  calls.countP fun call => call.function.id == account.callee

/-- What calls add to the occurrences of the function. -/
def gained (calls : List Invocation) : Nat :=
  (calls.map (Invocation.gain account.terms account.callee)).sum

/-- Going from one world to another, these calls were made: those of functions with a label were
logged, all had the arguments, and each used up an occurrence of those owed before. -/
structure Balances (owed : Nat) (before : World) (calls : List Invocation) (left : Nat)
    (after : World) : Prop where
  logged : after.calls.toList = before.calls.toList ++ calls.filterMap Invocation.record?
  given : ∀ call ∈ calls, call.arguments = account.arguments
  counted : account.spent calls + left + after.held account.terms account.callee ≤
    owed + before.held account.terms account.callee + account.gained calls

/-- A step makes the calls of a trace and balances them. -/
def Accounts {α : Type} (owed : Nat) (step : Build α) (calls : Trace) (left : α → Nat) : Prop :=
  ∀ world : World, world.Even account.terms world → Ensures step world
    (fun result after => account.Balances owed world (calls world) (left result) after)
    fun cause after => account.Balances owed world (calls world) 0 after ∧ account.fails cause

variable {account} {owed owed' left left' rest : Nat} {before middle after : World}
  {calls calls' : List Invocation}

theorem Balances.refl (owed : Nat) (world : World) : account.Balances owed world [] owed world where
  logged := by simp
  given := fun _ among => absurd among List.not_mem_nil
  counted := by simp [spent, gained]

theorem Balances.weaken (balances : account.Balances owed before calls left after)
    (more : owed ≤ owed') (less : left' ≤ left) :
    account.Balances owed' before calls left' after where
  logged := balances.logged
  given := balances.given
  counted := by
    have counted := balances.counted
    omega

/-- What is owed besides is left besides. -/
theorem Balances.frame (balances : account.Balances owed before calls left after) (rest : Nat) :
    account.Balances (owed + rest) before calls (left + rest) after where
  logged := balances.logged
  given := balances.given
  counted := by
    have counted := balances.counted
    omega

theorem Balances.trans (first : account.Balances owed before calls left middle)
    (second : account.Balances left middle calls' left' after) :
    account.Balances owed before (calls ++ calls') left' after where
  logged := by simp [second.logged, first.logged]
  given := fun call among => (List.mem_append.mp among).elim (first.given call) (second.given call)
  counted := by
    have counted := first.counted
    have counted' := second.counted
    simp only [spent, gained, List.countP_append, List.map_append, List.sum_append]
      at counted counted' ⊢
    omega

/-! ### Steps -/

section Steps

variable {α β : Type} {first : Build α} {next : α → Build β} {step : Build α} {trace : Trace}
  {traces : α → Trace} {lefts lefts' : α → Nat} {after' : β → Nat} {R : α → Prop}

theorem Accounts.weaken (accounts : account.Accounts owed step trace lefts) (more : owed ≤ owed')
    (less : ∀ result, lefts' result ≤ lefts result) :
    account.Accounts owed' step trace lefts' := fun world even =>
  (accounts world even).mono (fun result _ balances => balances.weaken more (less result))
    fun _ _ ends => ⟨ends.1.weaken more (Nat.le_refl 0), ends.2⟩

theorem Accounts.frame (accounts : account.Accounts owed step trace lefts) (rest : Nat) :
    account.Accounts (owed + rest) step trace fun result => lefts result + rest := fun world even =>
  (accounts world even).mono (fun _ _ balances => balances.frame rest)
    fun _ _ ends => ⟨(ends.1.frame rest).weaken (Nat.le_refl _) (Nat.zero_le _), ends.2⟩

/-- The second step uses up what the first one left. -/
theorem Accounts.chain (onFirst : account.Accounts owed first trace lefts)
    (likewise : Likewise account.terms.likeness R first first)
    (onNext : ∀ result, R result →
      account.Accounts (lefts result) (next result) (traces result) after') :
    account.Accounts owed (first >>= next) (trace.andThen first traces) after' := by
  intro world even
  have begins := onFirst world even
  have echoes := likewise world world even
  rw [MarkupSpec.ensures_bind]
  unfold Trace.andThen
  unfold Ensures at begins ⊢
  cases run : first world with
  | ok result middle =>
      rw [run] at begins echoes
      cases echoes with
      | ok holds even' =>
          exact (onNext result holds.2 middle even').mono (fun _ _ ends => begins.trans ends)
            fun _ _ ends => ⟨begins.trans ends.1, ends.2⟩
  | error cause middle =>
      rw [run] at begins
      dsimp only at begins ⊢
      rw [List.append_nil]
      exact begins

/-- The second step uses up what the first one left, and what is owed besides. -/
theorem Accounts.bind (onFirst : account.Accounts owed first trace lefts)
    (likewise : Likewise account.terms.likeness R first first)
    (onNext : ∀ result, R result →
      account.Accounts (lefts result + rest) (next result) (traces result) after') :
    account.Accounts (owed + rest) (first >>= next) (trace.andThen first traces) after' :=
  (onFirst.frame rest).chain likewise onNext

/-- What is done with the result of a step calls nothing. -/
theorem Accounts.map (accounts : account.Accounts owed first trace lefts) {f : α → β}
    (less : ∀ result, after' (f result) ≤ lefts result) :
    account.Accounts owed (first >>= fun result => pure (f result)) trace after' := by
  intro world even
  rw [MarkupSpec.ensures_bind]
  exact (accounts world even).mono
    (fun result _ balances => balances.weaken (Nat.le_refl _) (less result)) fun _ _ ends => ends

end Steps

end Account

/-! ## Steps that call nothing -/

/-- What the step leaves of each world stands in a relation to it, and what it may fail for is
limited. -/
def Confined (R : World → World → Prop) (fails : Failure → Prop) {α : Type}
    (step : Build α) : Prop :=
  ∀ world, Ensures step world (fun _ => R world) fun cause after => R world after ∧ fails cause

section Confined

variable {R : World → World → Prop} {fails : Failure → Prop} {α β : Type} (follows : Follows R)

include follows

theorem confined_pure (result : α) : Confined R fails (pure result : Build α) :=
  fun world => follows.refl world

theorem confined_throw {cause : Failure} (may : fails cause) :
    Confined R fails (throw cause : Build α) := fun world => ⟨follows.refl world, may⟩

theorem Confined.bind {first : Build α} {next : α → Build β} (onFirst : Confined R fails first)
    (onNext : ∀ result, Confined R fails (next result)) : Confined R fails (first >>= next) := by
  intro world
  rw [MarkupSpec.ensures_bind]
  refine (onFirst world).mono (fun result middle stays => ?_) fun _ _ ends => ends
  exact (onNext result middle).mono (fun _ _ later => follows.trans stays later)
    fun _ _ ends => ⟨follows.trans stays ends.1, ends.2⟩

end Confined

/-- Nothing was logged. -/
def World.SameLog (before after : World) : Prop := after.calls = before.calls

theorem sameLog : Follows World.SameLog where
  refl _ := rfl
  trans first second := Eq.trans second first

/-- Nothing was logged, and no stream was read or made. -/
structure World.SameStock (before after : World) : Prop where
  calls : after.calls = before.calls
  streams : after.streams = before.streams
  names : after.names = before.names

theorem sameStock : Follows World.SameStock where
  refl _ := ⟨rfl, rfl, rfl⟩
  trans first second := ⟨second.calls.trans first.calls, second.streams.trans first.streams,
    second.names.trans first.names⟩

/-- Clear worlds stay clear where no stream was read or made. -/
theorem World.SameStock.even {terms : Terms} {before after : World}
    (same : before.SameStock after) (even : before.Even terms before) : after.Even terms after where
  forest := rfl
  nextId := rfl
  names := same.names.trans even.names
  names' := same.names.trans even.names
  clear := even.clear
  size := rfl
  streams := same.streams ▸ even.streams
  calls := fun _ => rfl

/-- A step that logs nothing, and fails for no cause in a spec. -/
abbrev Unlogged {α : Type} (step : Build α) : Prop :=
  Confined World.SameLog (fun cause => cause.isOfValue) step

section Fill

variable {α : Type} {arguments : List Value}

theorem unlogged_pure (result : α) : Unlogged (pure result : Build α) :=
  confined_pure sameLog result

theorem unlogged_throw {cause : Failure} (ofValue : cause.isOfValue) :
    Unlogged (throw cause : Build α) := confined_throw sameLog ofValue

theorem unlogged_named (name : String) (walk : List Walk) : Unlogged (named name walk) := by
  have gets : Unlogged (get : Build World) := fun _ => rfl
  refine gets.bind sameLog fun world => ?_
  split
  · exact unlogged_throw rfl
  · exact unlogged_pure _
  · have looks : Unlogged Build.forest := fun _ => rfl
    refine looks.bind sameLog fun forest => ?_
    split
    · exact unlogged_pure _
    · exact unlogged_throw rfl
  · exact unlogged_throw rfl

theorem unlogged_bytesOf (isMutable : Bool) :
    ∀ numbers : List Int, Unlogged (bytesOf isMutable numbers)
  | [] => unlogged_pure _
  | number :: rest => by
      unfold bytesOf
      split
      · exact (unlogged_bytesOf isMutable rest).bind sameLog fun _ => unlogged_pure _
      · exact unlogged_throw rfl

theorem unlogged_freshId : Unlogged freshId := fun _ => rfl

theorem unlogged_floatOf (text : String) : Unlogged (floatOf text) := by
  unfold floatOf
  split
  · exact unlogged_freshId.bind sameLog fun _ => unlogged_pure _
  · exact unlogged_pure _
  · exact unlogged_throw rfl

theorem unlogged_setOf (values members : List Value) :
    Unlogged (Build.setOf values members) := by
  induction values generalizing members with
  | nil => exact unlogged_pure _
  | cons member rest ih =>
      unfold Build.setOf
      split
      · exact ih _
      · exact unlogged_throw rfl

mutual

/-- Filling a template calls nothing. -/
theorem Template.unlogged_fill (arguments : List Value) :
    ∀ template : Template, Unlogged (template.fill arguments)
  | .null | .bool _ | .int _ | .text _ | .argument _ | .arguments => unlogged_pure _
  | .float written => unlogged_floatOf written
  | .bytes isMutable content =>
      (unlogged_bytesOf isMutable content).bind sameLog fun _ => unlogged_pure _
  | .range start stop step => by
      unfold Template.fill
      split
      · exact unlogged_throw rfl
      · exact unlogged_pure _
  | .list items | .tuple items =>
      (Template.unlogged_fillAll arguments items).bind sameLog fun _ => unlogged_pure _
  | .set _ members =>
      (Template.unlogged_fillAll arguments members).bind sameLog fun _ =>
        (unlogged_setOf _ _).bind sameLog fun _ => unlogged_pure _
  | .map entries =>
      (Template.unlogged_fillEntries arguments entries []).bind sameLog fun _ => unlogged_pure _
  | .stream items =>
      (Template.unlogged_fillAll arguments items).bind sameLog fun _ _ => rfl
  | .thing _ | .function _ _ => unlogged_freshId.bind sameLog fun _ => unlogged_pure _
  | .concat parts =>
      (Template.unlogged_fillAll arguments parts).bind sameLog fun _ =>
        Confined.bind sameLog (fun _ => rfl) fun _ => unlogged_pure _
  | .fail _ => unlogged_throw rfl
  | .named name walk => unlogged_named name walk
termination_by structural template => template

theorem Template.unlogged_fillAll (arguments : List Value) :
    ∀ templates : List Template, Unlogged (Template.fillAll arguments templates)
  | [] => unlogged_pure _
  | template :: rest =>
      (Template.unlogged_fill arguments template).bind sameLog fun _ =>
        (Template.unlogged_fillAll arguments rest).bind sameLog fun _ => unlogged_pure _
termination_by structural templates => templates

theorem Template.unlogged_fillEntries (arguments : List Value) :
    ∀ (templates : List (Template × Template)) (entries : Entries),
      Unlogged (Template.fillEntries arguments templates entries)
  | [], _ => unlogged_pure _
  | (key, value) :: rest, entries => by
      unfold Template.fillEntries
      refine (Template.unlogged_fill arguments key).bind sameLog fun _ => ?_
      refine (Template.unlogged_fill arguments value).bind sameLog fun _ => ?_
      split
      · exact Template.unlogged_fillEntries arguments rest _
      · exact unlogged_throw rfl
termination_by structural templates => templates

end

/-- A call logs itself, if the function has a label, and nothing else. -/
theorem Function.logs_call (function : Function) (arguments : List Value) (world : World) :
    Ensures (function.call arguments) world
      (fun _ after => after.calls.toList = world.calls.toList ++
        [({ function, arguments, world } : Invocation)].filterMap Invocation.record?)
      fun cause after => after.calls.toList = world.calls.toList ++
        [({ function, arguments, world } : Invocation)].filterMap Invocation.record? ∧
        cause.isOfValue := by
  have fills := Template.unlogged_fill arguments function.body
  unfold Function.call
  dsimp only
  split
  · rename_i label isLabel
    rw [MarkupSpec.ensures_bind]
    refine (fills _).mono (fun _ after same => ?_) fun _ after ends => ⟨?_, ends.2⟩
    · rw [World.SameLog] at same
      simp [same, Invocation.record?, isLabel]
    · have same := ends.1
      rw [World.SameLog] at same
      simp [same, Invocation.record?, isLabel]
  · rename_i unlabelled
    refine (fills world).mono (fun _ after same => ?_) fun _ after ends => ⟨?_, ends.2⟩
    · rw [World.SameLog] at same
      simp [same, Invocation.record?, unlabelled]
    · have same := ends.1
      rw [World.SameLog] at same
      simp [same, Invocation.record?, unlabelled]

end Fill

namespace Account

variable {account : Account} {owed : Nat} {α β : Type}

/-- A step that calls nothing uses nothing up. -/
theorem Balances.of_same {before after : World} (same : before.SameStock after) :
    account.Balances owed before [] owed after where
  logged := by simp [same.calls]
  given := fun _ among => absurd among List.not_mem_nil
  counted := by simp [spent, gained, World.held, same.streams]

/-- What calls nothing may come first. -/
theorem Balances.after_same {before middle after : World} {calls : List Invocation} {left : Nat}
    (same : before.SameStock middle) (balances : account.Balances owed middle calls left after) :
    account.Balances owed before calls left after where
  logged := same.calls ▸ balances.logged
  given := balances.given
  counted := by
    have held : middle.held account.terms account.callee =
        before.held account.terms account.callee := by
      rw [World.held, same.streams, World.held]
    exact held ▸ balances.counted

/-- A step that calls nothing, and leaves streams and names alone. -/
abbrev Quiet (account : Account) (step : Build α) : Prop :=
  Confined World.SameStock account.fails step

theorem Quiet.accounts {step : Build α} (quiet : account.Quiet step) (owed : Nat) :
    account.Accounts owed step .silent fun _ => owed := fun world _ =>
  (quiet world).mono (fun _ _ same => .of_same same) fun _ _ ends =>
    ⟨(Balances.of_same ends.1).weaken (Nat.le_refl _) (Nat.zero_le _), ends.2⟩

/-- A step may begin with one that calls nothing. -/
theorem Quiet.bind {first : Build α} {next : α → Build β} {traces : α → Trace} {lefts : β → Nat}
    (quiet : account.Quiet first)
    (onNext : ∀ result, account.Accounts owed (next result) (traces result) lefts) :
    account.Accounts owed (first >>= next) (Trace.silent.andThen first traces) lefts := by
  intro world even
  have begins := quiet world
  rw [MarkupSpec.ensures_bind]
  unfold Trace.andThen Trace.silent
  rw [List.nil_append]
  unfold Ensures at begins ⊢
  cases run : first world with
  | ok result middle =>
      rw [run] at begins
      exact (onNext result middle (begins.even even)).mono
        (fun _ _ ends => .after_same begins ends) fun _ _ ends => ⟨.after_same begins ends.1, ends.2⟩
  | error cause middle =>
      rw [run] at begins
      exact ⟨(Balances.of_same begins.1).weaken (Nat.le_refl _) (Nat.zero_le _), begins.2⟩

theorem quiet_pure (result : α) : account.Quiet (pure result : Build α) :=
  confined_pure sameStock result

theorem quiet_throw {cause : Failure} (may : account.fails cause) :
    account.Quiet (throw cause : Build α) := confined_throw sameStock may

theorem quiet_forest : account.Quiet Build.forest := fun _ => ⟨rfl, rfl, rfl⟩

theorem quiet_describe : account.Quiet describe := fun _ => ⟨rfl, rfl, rfl⟩

theorem quiet_remaining (id : Nat) : account.Quiet (remaining id) := fun _ => ⟨rfl, rfl, rfl⟩

theorem quiet_absent (value : Value) : account.Quiet (absent value) := by
  unfold absent
  split
  · exact quiet_pure _
  · exact quiet_throw (account.ofValue _ rfl)

/-! ## Streams and calls -/

variable {id : Nat} {value : Value}

theorem accounts_takeNext (isClear : account.terms.aside id = none) :
    account.Accounts 0 (takeNext id) .silent fun item => item.elim 0 (occurrences account.callee) := by
  intro world even
  show Ensures (match (world.streams[id]?).getD [] with
    | [] => pure none
    | item :: rest => do setRemaining id rest; pure (some item)) world _ _
  cases left : (world.streams[id]?).getD [] with
  | nil => exact Balances.of_same (sameStock.refl world)
  | cons item rest =>
      have inside : id < world.streams.size := by
        by_contra beyond
        rw [Array.getElem?_eq_none (Nat.not_lt.mp beyond)] at left
        cases left
      have held := World.held_setRemaining account.callee isClear inside rest
      rw [left, occurrencesAll] at held
      exact
        { logged := by simp [Trace.silent]
          given := fun _ among => absurd among List.not_mem_nil
          counted := by
            simp only [Trace.silent, spent, gained, List.countP_nil, List.map_nil, List.sum_nil,
              Option.elim_some]
            omega }

theorem accounts_drain (isClear : account.terms.aside id = none) :
    account.Accounts 0 (drain id) .silent (occurrencesAll account.callee) := by
  intro world even
  show account.Balances 0 world [] (occurrencesAll account.callee ((world.streams[id]?).getD []))
    { world with streams := world.streams.modify id fun _ => [] }
  by_cases inside : id < world.streams.size
  · have held := World.held_setRemaining account.callee isClear inside []
    exact
      { logged := by simp
        given := fun _ among => absurd among List.not_mem_nil
        counted := by
          simp only [spent, gained, List.countP_nil, List.map_nil, List.sum_nil]
          rw [occurrencesAll] at held
          omega }
  · have beyond := Nat.not_lt.mp inside
    rw [Array.getElem?_eq_none beyond]
    have same : world.streams.modify id (fun _ => []) = world.streams := by
      refine Array.ext_getElem? fun other => ?_
      rw [Array.getElem?_modify]
      split
      · rename_i isSame
        rw [← isSame, Array.getElem?_eq_none beyond]
        rfl
      · rfl
    exact Balances.of_same ⟨rfl, same, rfl⟩

/-- A call uses up the occurrence of its function. -/
theorem accounts_call (function : Function) :
    account.Accounts ((Value.function function).occurrences account.callee)
      (function.call account.arguments) (.one function account.arguments)
      (occurrences account.callee) := by
  intro world _
  have logs := function.logs_call account.arguments world
  have given : ∀ call ∈ Trace.one function account.arguments world,
      call.arguments = account.arguments := fun call among => by
    rw [List.mem_singleton.mp among]
  have spends : account.spent (Trace.one function account.arguments world) =
      (Value.function function).occurrences account.callee := by
    simp [spent, Trace.one, occurrences, List.countP_cons]
  have gains : account.gained (Trace.one function account.arguments world) =
      Invocation.gain account.terms account.callee
        { function, arguments := account.arguments, world } := by
    simp [gained, Trace.one]
  unfold Ensures at logs ⊢
  cases run : function.call account.arguments world with
  | ok value after =>
      rw [run] at logs
      refine ⟨logs, given, ?_⟩
      rw [spends, gains, Invocation.gain, run]
      rw [Nat.add_assoc, Nat.add_assoc]
      exact Nat.add_le_add_left (Nat.sub_le_iff_le_add'.mp (Nat.le_refl _)) _
  | error cause after =>
      rw [run] at logs
      refine ⟨⟨logs.1, given, ?_⟩, account.ofValue _ logs.2⟩
      rw [spends, gains, Invocation.gain, run, Nat.add_zero, Nat.add_assoc]
      exact Nat.add_le_add_left (Nat.sub_le_iff_le_add'.mp (Nat.le_refl _)) _

/-! ## Flattening -/

section Words

variable {one : Value → Build (Option String)} {calls : Value → Trace}
  (each : ∀ value : Value, value.isClear account.terms →
    account.Accounts (value.occurrences account.callee) (one value) (calls value) fun _ => 0)
  (likewise : ∀ value : Value, value.isClear account.terms →
    Likewise account.terms.likeness Anything (one value) (one value))

include each likewise

theorem accounts_words : ∀ values : List Value, AreClear account.terms values →
    account.Accounts (occurrencesAll account.callee values) (Flatten.words one values)
      (Flatten.eachCalls one calls values) fun _ => 0
  | [], _ => (quiet_pure _).accounts 0
  | value :: rest, areClear => by
      rw [AreClear, List.forall_mem_cons] at areClear
      refine (each value areClear.1).bind (likewise value areClear.1) fun text _ => ?_
      rw [Nat.zero_add]
      exact (accounts_words rest areClear.2).map fun _ => Nat.le_refl 0

theorem accounts_entryWords : ∀ entries : List (String × Value),
    (∀ entry ∈ entries, entry.2.isClear account.terms) →
    account.Accounts (occurrencesAll account.callee (entries.map Prod.snd))
      (Flatten.entryWords one entries) (Flatten.eachCalls one calls (entries.map Prod.snd)) fun _ => 0
  | [], _ => (quiet_pure _).accounts 0
  | (key, value) :: rest, areClear => by
      rw [List.forall_mem_cons] at areClear
      refine (each value areClear.1).bind (likewise value areClear.1) fun text _ => ?_
      rw [Nat.zero_add]
      cases text with
      | none => exact accounts_entryWords rest areClear.2
      | some text => exact (accounts_entryWords rest areClear.2).map fun _ => Nat.le_refl 0

theorem accounts_streamWords (isClear : account.terms.aside id = none) : ∀ most : Nat,
    account.Accounts 0 (Flatten.streamWords one id most) (Flatten.streamCalls one calls id most)
      fun _ => 0
  | 0 => (quiet_pure _).accounts 0
  | most + 1 => by
      have takes := (kindred_clear account.terms).likewise_takeNext (isClear_stream.mpr isClear)
      refine (accounts_takeNext isClear).chain takes fun item isItem => ?_
      cases item with
      | none => exact (quiet_pure _).accounts 0
      | some value =>
          have isValue := isItem value rfl
          refine (each value isValue).chain (likewise value isValue) fun text _ => ?_
          exact (accounts_streamWords isClear most).map fun _ => Nat.le_refl 0

end Words

/-- Flattening a value uses up what is found in it. -/
theorem accounts_flattenWithin (given : AreClear account.terms account.arguments) :
    ∀ (depth : Nat) (value : Value), value.isClear account.terms →
      account.Accounts (value.occurrences account.callee)
        (flattenWithin (pure account.arguments) depth value)
        (callsWithin account.arguments depth value) fun _ => 0
  | 0, _, _ => ((quiet_throw (account.ofValue _ rfl)).accounts _).weaken (Nat.le_refl _)
      fun _ => Nat.zero_le _
  | depth + 1, value, isClear => by
      have each := accounts_flattenWithin given depth
      have kindred := kindred_clear account.terms
      have inherited := kindred.inherited
      have likewise := kindred.likewise_flattenWithin (likewise_pure given) depth
      unfold flattenWithin callsWithin
      refine (quiet_absent value).bind fun isAbsent => ?_
      split
      · exact ((quiet_pure _).accounts _).weaken (Nat.le_refl _) fun _ => Nat.zero_le _
      cases value with
      | map entries =>
          refine Quiet.bind quiet_describe fun describe => ?_
          have all : ∀ entry ∈ sortedEntries describe entries, entry.2.isClear account.terms :=
            Kindred.has_of_mem_sortedEntries (P := fun value => value.isClear account.terms)
              (inherited.map.mp isClear)
          refine ((accounts_entryWords each likewise _ all).weaken ?_ fun _ => Nat.le_refl 0).map
            fun _ => Nat.le_refl 0
          rw [occurrences, sortedEntries, occurrencesAll_of_perm ((Text.perm_sortByText _ _).map _),
            List.map_map]
          exact occurrencesAll_values_le _ entries
      | function callee =>
          show account.Accounts _ (callee.call account.arguments >>= _) _ _
          refine (accounts_call callee).chain (kindred.likewise_call given isClear)
            fun value isClear => ?_
          exact each value isClear
      | set isFrozen members =>
          refine Quiet.bind quiet_describe fun describe => ?_
          have sorted : AreClear account.terms (Text.sortByText (Value.plain describe) members) :=
            fun member among => inherited.set.mp isClear member (Text.mem_sortByText.mp among)
          rw [occurrences,
            ← occurrencesAll_of_perm (Text.perm_sortByText (Value.plain describe) members)]
          exact (accounts_words each likewise _ sorted).map fun _ => Nat.le_refl 0
      | list items =>
          exact (accounts_words each likewise items (inherited.list.mp isClear)).map
            fun _ => Nat.le_refl 0
      | tuple items =>
          exact (accounts_words each likewise items (inherited.tuple.mp isClear)).map
            fun _ => Nat.le_refl 0
      | range start stop step =>
          refine ((accounts_words each likewise (Value.rangeItems start stop step)
            fun _ => inherited.of_mem_rangeItems).weaken ?_ fun _ => Nat.le_refl 0).map
            fun _ => Nat.le_refl 0
          rw [occurrences_rangeItems]
          exact Nat.zero_le _
      | stream id =>
          refine Quiet.bind (quiet_remaining id) fun items => ?_
          exact (accounts_streamWords each likewise (isClear_stream.mp isClear) _).map
            fun _ => Nat.le_refl 0
      | _ =>
          refine ((quiet_describe.accounts _).map fun _ => ?_)
          exact Nat.zero_le _

theorem accounts_flatten (given : AreClear account.terms account.arguments)
    (isClear : value.isClear account.terms) :
    account.Accounts (value.occurrences account.callee) (flatten account.arguments value)
      (textCalls account.arguments value) fun _ => 0 :=
  accounts_flattenWithin given nestingBudget value isClear

theorem accounts_flattenAttributes (given : AreClear account.terms account.arguments) :
    ∀ attributes : RawAttributes, (∀ entry ∈ attributes, entry.2.isClear account.terms) →
      account.Accounts (occurrencesAll account.callee (attributes.map Prod.snd))
        (flattenAttributes pure account.arguments attributes)
        (textsCalls account.arguments (attributes.map Prod.snd)) fun _ => 0
  | [], _ => (quiet_pure _).accounts 0
  | (key, value) :: rest, areClear => by
      rw [List.forall_mem_cons] at areClear
      refine (accounts_flatten given areClear.1).bind
        ((kindred_clear account.terms).likewise_flatten given areClear.1) fun text _ => ?_
      rw [Nat.zero_add]
      cases text with
      | none => exact accounts_flattenAttributes given rest areClear.2
      | some text =>
          exact (accounts_flattenAttributes given rest areClear.2).map fun _ => Nat.le_refl 0

end Account

end MarkupSpec
