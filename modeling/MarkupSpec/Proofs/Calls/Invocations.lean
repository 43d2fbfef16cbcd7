import MarkupSpec.Proofs.Calls.Account
import MarkupSpec.Proofs.Calls.Order
import MarkupSpec.Proofs.Spec.MapOrder

/-!
# What functions are called with, how often and in which order

The main statement is `compile_calls`.  However a build ends, its log has grown by the calls of its
functions with a label.  Every function was called with the arguments of the build.  A function was
called no more often than it was to be found: in the spec, in the streams that the spec goes by, and
in what other calls returned.  And the calls for an element are in order: those for its name, those
for its attributes, those for its children.

Reading and building balance their calls, step by step: what a value was read as has no more
occurrences of a function than the value, and the parts that are flattened or built are apart.
-/

namespace MarkupSpec

open Forest Edit Build
open Value (occurrencesAll occurrencesIn)

/-! ## Occurrences in what was read -/

section Occurrences

variable (id : Nat)

/-- How often a function is found in the values of attributes. -/
abbrev occurrencesOf (id : Nat) (attributes : RawAttributes) : Nat :=
  occurrencesAll id (attributes.map Prod.snd)

/-- How often a function is found in the parts of what a value was read as. -/
def Spec.occurrences (id : Nat) : Spec → Nat
  | .sequence items => occurrencesAll id items
  | .callable function => (Value.function function).occurrences id
  | .element name attributes children =>
      name.occurrences id + (occurrencesOf id attributes + occurrencesAll id children)
  | .comment children | .cdata children => occurrencesAll id children
  | .instruction children attributes | .doctype children attributes =>
      occurrencesAll id children + occurrencesOf id attributes
  | .existing _ | .text _ => 0

/-- How often a function is found in what stands in the name slot of a map. -/
def NameSlot.occurrences (id : Nat) : NameSlot → Nat
  | .explicit slot => slot.occurrences id
  | .compact key name => key.occurrences id + name.occurrences id
  | .marked _ value => value.occurrences id
  | .missing | .ambiguous .. => 0

/-- Entries whose keys are no attributes are apart from the attributes of a map. -/
theorem occurrences_apart (marker : Marker) (test : Value → Bool)
    (apart : ∀ content, marker.unmark? content = none → test (.text content) = false) :
    ∀ entries : Entries, occurrencesIn id (entries.filter fun entry => test entry.1) +
      occurrencesOf id (attributesOf marker entries) ≤ occurrencesIn id entries
  | [] => Nat.le_refl 0
  | (key, value) :: rest => by
      have later := occurrences_apart marker test apart rest
      have kept : occurrencesIn id (((key, value) :: rest).filter fun entry => test entry.1) ≤
          key.occurrences id + value.occurrences id +
            occurrencesIn id (rest.filter fun entry => test entry.1) := by
        rw [List.filter_cons]
        split
        · exact Nat.le_refl _
        · exact Nat.le_add_left _ _
      rw [attributesOf_eq_selected] at later ⊢
      cases isKey : attributeKey? marker key with
      | none =>
          have same : selected (attributeKey? marker) ((key, value) :: rest) =
              selected (attributeKey? marker) rest := by simp [selected, isKey]
          rw [same, occurrencesIn]
          omega
      | some content =>
          obtain rfl := eq_text_of_attributeKey? isKey
          have unmarked : marker.unmark? content = none := by
            simpa [attributeKey?, Value.text?] using isKey
          have more : selected (attributeKey? marker) ((.text content, value) :: rest) =
              (content, value) :: selected (attributeKey? marker) rest := by simp [selected, isKey]
          have whole : occurrencesOf id ((content, value) :: selected (attributeKey? marker) rest) =
              value.occurrences id + occurrencesOf id (selected (attributeKey? marker) rest) := rfl
          rw [more, whole, List.filter_cons_of_neg (by simp [apart content unmarked]), occurrencesIn]
          omega

theorem occurrences_lookup_null_le {slot : Value} :
    ∀ {entries : Entries}, Value.lookup .null entries = some slot →
      slot.occurrences id ≤ occurrencesIn id (entries.filter fun entry => entry.1.isNull)
  | (key, value) :: rest, found => by
      rw [Value.lookup] at found
      split at found
      · rename_i isNull
        cases found
        obtain rfl := Value.sameKey_null_right.mp isNull
        rw [List.filter_cons_of_pos rfl, occurrencesIn]
        omega
      · have later := occurrences_lookup_null_le found
        rw [List.filter_cons]
        split
        · rw [occurrencesIn]
          omega
        · exact later

theorem occurrences_marked_le (marker : Marker) : ∀ entries : Entries,
    occurrencesAll id ((markedEntries marker entries).map Prod.snd) ≤
      occurrencesIn id (entries.filter fun entry => (markedWord? marker entry.1).isSome)
  | [] => Nat.le_refl 0
  | (key, value) :: rest => by
      have later := occurrences_marked_le marker rest
      cases isMarked : markedWord? marker key with
      | none => simpa [markedEntries, isMarked] using later
      | some word =>
          have more : markedEntries marker ((key, value) :: rest) =
              (word, value) :: markedEntries marker rest := by simp [markedEntries, isMarked]
          rw [more, List.filter_cons_of_pos (by simp [isMarked]), List.map_cons, occurrencesAll,
            occurrencesIn]
          dsimp only
          omega

/-- What stands in the name slot of a map is apart from the attributes. -/
theorem occurrences_nameSlot_le (marker : Marker) (entries : Entries) :
    (nameSlot marker entries).occurrences id + occurrencesOf id (attributesOf marker entries) ≤
      occurrencesIn id entries := by
  have marked := occurrences_apart id marker (fun key => (markedWord? marker key).isSome)
    (fun content unmarked => by simp [markedWord?, Value.text?, unmarked]) entries
  have areMarked := occurrences_marked_le id marker entries
  cases explicit : explicitSlot? entries with
  | some slot =>
      have apart := occurrences_apart id marker Value.isNull (fun _ _ => rfl) entries
      have isThere := occurrences_lookup_null_le id (Option.filter_eq_some_iff.mp explicit).1
      rw [nameSlot, explicit]
      dsimp only [NameSlot.occurrences]
      omega
  | none =>
      cases compact : compactEntries entries with
      | cons first others =>
          cases others with
          | cons =>
              rw [nameSlot, explicit, compact]
              dsimp only [NameSlot.occurrences]
              omega
          | nil =>
              have apart := occurrences_apart id marker (fun key => key.isTuple || key.isNode)
                (fun _ _ => rfl) entries
              have same : (entries.filter fun entry => entry.1.isTuple || entry.1.isNode) = [first] :=
                compact
              rw [same] at apart
              rw [nameSlot, explicit, compact]
              exact apart
      | nil =>
          rw [nameSlot, explicit, compact]
          cases isMarked : markedEntries marker entries with
          | nil =>
              dsimp only [NameSlot.occurrences]
              omega
          | cons first others =>
              rw [isMarked] at areMarked
              cases others with
              | cons =>
                  dsimp only [NameSlot.occurrences]
                  omega
              | nil =>
                  simp only [List.map_cons, List.map_nil, occurrencesAll] at areMarked
                  dsimp only [NameSlot.occurrences]
                  omega

theorem occurrences_compactChildren (key : Value) :
    occurrencesAll id (compactChildren key) = key.occurrences id := by
  cases key <;> rfl

/-- What a map stands for by a name has no more than the name, the children and the attributes. -/
theorem occurrences_ofNamed_le (marker : Marker) (name : Value) (children : List Value)
    (attributes : RawAttributes) : (Spec.ofNamed marker name children attributes).occurrences id ≤
      name.occurrences id + occurrencesAll id children + occurrencesOf id attributes := by
  unfold Spec.ofNamed
  split <;> dsimp only [Spec.occurrences] <;> omega

/-- Three children are different parts of all children. -/
theorem occurrences_children_le (children : List Value) :
    (children.head?.getD Value.null).occurrences id +
      ((children[1]?.getD Value.null).occurrences id +
        (children[2]?.getD Value.null).occurrences id) ≤ occurrencesAll id children := by
  have none : Value.null.occurrences id = 0 := rfl
  match children with
  | [] => simp [none]
  | [_] => simp [none, occurrencesAll]
  | [_, _] => simp [none, occurrencesAll]
  | first :: second :: third :: rest =>
      simp only [List.head?_cons, List.getElem?_cons_succ, List.getElem?_cons_zero,
        Option.getD_some, occurrencesAll]
      omega

theorem occurrences_lookup_le (key : String) : ∀ attributes : RawAttributes,
    ((attributes.lookup key).getD .null).occurrences id ≤ occurrencesOf id attributes
  | [] => Nat.le_refl 0
  | (other, value) :: rest => by
      have later := occurrences_lookup_le key rest
      have whole : occurrencesOf id ((other, value) :: rest) =
          value.occurrences id + occurrencesOf id rest := rfl
      rw [List.lookup_cons, whole]
      split
      · exact Nat.le_add_right _ _
      · exact Nat.le_trans later (Nat.le_add_left _ _)

/-- The attributes of two keys are different ones. -/
theorem occurrences_lookups_le {key key' : String} (differ : key ≠ key') :
    ∀ attributes : RawAttributes, ((attributes.lookup key).getD .null).occurrences id +
      ((attributes.lookup key').getD .null).occurrences id ≤ occurrencesOf id attributes
  | [] => Nat.le_refl 0
  | (other, value) :: rest => by
      have later := occurrences_lookups_le differ rest
      have first := occurrences_lookup_le id key rest
      have second := occurrences_lookup_le id key' rest
      have whole : occurrencesOf id ((other, value) :: rest) =
          value.occurrences id + occurrencesOf id rest := rfl
      rw [List.lookup_cons, List.lookup_cons, whole]
      by_cases isFirst : key = other
      · have notSecond : (key' == other) = false := by simpa [← isFirst] using Ne.symm differ
        simp only [isFirst, beq_self_eq_true, notSecond, Option.getD_some]
        omega
      · have notFirst : (key == other) = false := by simpa using isFirst
        rw [notFirst]
        dsimp only
        split
        · rw [Option.getD_some]
          omega
        · omega

end Occurrences

/-! ## Reading -/

namespace Account

variable {account : Account} {α β : Type} {value : Value} {id : Nat}

theorem andThen_silent {α : Type} (calls : Trace) (step : Build α) :
    (calls.andThen step fun _ => .silent) = calls := by
  funext world
  unfold Trace.andThen Trace.silent
  cases step world <;> simp

/-- The calls of a step that is followed by one that calls nothing. -/
theorem Accounts.chain_silent {first : Build α} {next : α → Build β} {trace : Trace} {owed : Nat}
    {lefts : α → Nat} {lefts' : β → Nat} {R : α → Prop}
    (onFirst : account.Accounts owed first trace lefts)
    (likewise : Likewise account.terms.likeness R first first)
    (onNext : ∀ result, R result → account.Accounts (lefts result) (next result) .silent lefts') :
    account.Accounts owed (first >>= next) trace lefts' := by
  have binds := onFirst.chain likewise onNext
  rwa [andThen_silent] at binds

theorem Quiet.bind_silent {first : Build α} {next : α → Build β} {owed : Nat} {lefts : β → Nat}
    (quiet : account.Quiet first)
    (onNext : ∀ result, account.Accounts owed (next result) .silent lefts) :
    account.Accounts owed (first >>= next) .silent lefts := by
  have binds := quiet.bind onNext
  rwa [andThen_silent] at binds

theorem accounts_pure {lefts : α → Nat} (result : α) {owed : Nat} (less : lefts result ≤ owed) :
    account.Accounts owed (pure result : Build α) .silent lefts := fun world _ =>
  (Balances.refl (lefts result) world).weaken less (Nat.le_refl _)

section Reading

variable (anyway : ∀ cause, account.fails cause)

include anyway

theorem accounts_throw (cause : Failure) (owed : Nat) (lefts : α → Nat) :
    account.Accounts owed (throw cause : Build α) .silent lefts := fun world _ =>
  ⟨(Balances.refl owed world).weaken (Nat.le_refl _) (Nat.zero_le _), anyway cause⟩

theorem accounts_members (isClear : value.isClear account.terms) :
    account.Accounts (value.occurrences account.callee) (members value) .silent
      (occurrencesAll account.callee) := by
  cases value with
  | list items => exact accounts_pure items (Nat.le_refl _)
  | tuple items => exact accounts_pure items (Nat.le_refl _)
  | range start stop step =>
      show account.Accounts _ (rangeMembers start stop step) _ _
      unfold rangeMembers
      dsimp only
      split
      · exact accounts_throw anyway _ _ _
      · split
        · exact accounts_throw anyway _ _ _
        · exact accounts_pure _ (Nat.le_of_eq (Value.occurrences_rangeItems start stop step))
  | stream id => exact accounts_drain (Value.isClear_stream.mp isClear)
  | _ => exact accounts_pure [] (Nat.zero_le _)

theorem accounts_asChildren (isClear : value.isClear account.terms) :
    account.Accounts (value.occurrences account.callee) (asChildren value) .silent
      (occurrencesAll account.callee) := by
  unfold asChildren
  split
  · exact accounts_pure [] (Nat.zero_le _)
  · split
    · exact accounts_members anyway isClear
    · exact accounts_pure [value] (Nat.le_refl _)

/-- A name and children have the occurrences of what they were read from. -/
theorem accounts_readExplicit (isClear : value.isClear account.terms) :
    account.Accounts (value.occurrences account.callee) (readExplicit value) .silent
      fun named => named.1.occurrences account.callee + occurrencesAll account.callee named.2 := by
  unfold readExplicit
  split
  · refine (accounts_members anyway isClear).chain_silent
      ((kindred_clear account.terms).likewise_members isClear) fun items _ => ?_
    cases items with
    | nil => exact accounts_pure _ (Nat.zero_le _)
    | cons name children => exact accounts_pure _ (Nat.le_refl _)
  · exact accounts_pure _ (Nat.le_refl _)

theorem accounts_readMarked (marker : Marker) (word : String)
    (isClear : value.isClear account.terms) :
    account.Accounts (value.occurrences account.callee) (readMarked marker word value) .silent
      fun named => named.1.occurrences account.callee + occurrencesAll account.callee named.2 := by
  unfold readMarked
  split
  · exact accounts_pure _ (Nat.le_refl _)
  · refine (accounts_asChildren anyway isClear).chain_silent
      ((kindred_clear account.terms).likewise_asChildren isClear) fun children _ => ?_
    exact accounts_pure _ (Nat.le_of_eq (Nat.zero_add _))

theorem accounts_parseMap (settings : Settings) (path : List String) {entries : Entries}
    (areClear : ∀ entry ∈ entries, entry.1.isClear account.terms ∧ entry.2.isClear account.terms) :
    account.Accounts (occurrencesIn account.callee entries) (parseMap settings path entries) .silent
      fun spec => spec.occurrences account.callee := by
  have kindred := kindred_clear account.terms
  have slot : (nameSlot settings.marker entries).Has fun value => value.isClear account.terms :=
    has_nameSlot areClear
  have apart := occurrences_nameSlot_le account.callee settings.marker entries
  have reads (named : Value × List Value) {owed : Nat}
      (most : named.1.occurrences account.callee + occurrencesAll account.callee named.2 +
        occurrencesOf account.callee (attributesOf settings.marker entries) ≤ owed) :
      account.Accounts owed (pure (Spec.ofNamed settings.marker named.1 named.2
        (attributesOf settings.marker entries))) .silent
        fun spec => spec.occurrences account.callee :=
    accounts_pure _ (Nat.le_trans (occurrences_ofNamed_le _ _ _ _ _) most)
  unfold parseMap
  have counts : account.Quiet (discard (absent ((Value.lookup .null entries).getD .null))) :=
    fun world => ensures_discard.mpr (quiet_absent _ world)
  refine counts.bind_silent fun _ => ?_
  cases slots : nameSlot settings.marker entries with
  | explicit value =>
      rw [slots] at slot apart
      refine (((accounts_readExplicit anyway slot).frame _).chain_silent
        (kindred.likewise_readExplicit slot) fun named _ =>
          reads named (Nat.le_refl _)).weaken apart fun _ => Nat.le_refl _
  | marked word value =>
      rw [slots] at slot apart
      refine (((accounts_readMarked anyway settings.marker word slot).frame _).chain_silent
        (kindred.likewise_readMarked _ word slot)
        fun named _ => reads named (Nat.le_refl _)).weaken apart fun _ => Nat.le_refl _
  | compact key name =>
      rw [slots, NameSlot.occurrences] at apart
      refine reads (name, compactChildren key) ?_
      rw [occurrences_compactChildren]
      dsimp only
      omega
  | missing =>
      rw [slots, NameSlot.occurrences] at apart
      exact reads (.null, []) (Nat.le_trans (Nat.le_of_eq rfl) apart)
  | ambiguous form keys =>
      have quotes : account.Quiet (Build.quoted (.map entries)) := fun _ => ⟨rfl, rfl, rfl⟩
      exact quotes.bind_silent fun _ => accounts_throw anyway _ _ _

/-- What a value is read as has no more occurrences of a function than the value. -/
theorem accounts_parse (settings : Settings) (path : List String)
    (isClear : value.isClear account.terms) :
    account.Accounts (value.occurrences account.callee) (parse settings path value) .silent
      fun spec => spec.elim 0 (Spec.occurrences account.callee) := by
  have kindred := kindred_clear account.terms
  unfold parse
  refine (quiet_absent value).bind_silent fun isAbsent => ?_
  split
  · exact accounts_pure _ (Nat.zero_le _)
  · have sequence (isSequence : value.isSequence) :
        account.Accounts (value.occurrences account.callee)
          (members value >>= fun items => pure (some (Spec.sequence items))) .silent
          fun spec => spec.elim 0 (Spec.occurrences account.callee) :=
      (accounts_members anyway isClear).map fun _ => Nat.le_refl _
    cases value with
    | node id => exact accounts_pure _ (Nat.zero_le _)
    | function callee => exact accounts_pure _ (Nat.le_refl _)
    | map entries =>
        exact (accounts_parseMap anyway settings path (kindred.inherited.map.mp isClear)).map
          fun _ => Nat.le_refl _
    | list | tuple | range | stream => exact sequence rfl
    | _ => exact accounts_pure _ (Nat.zero_le _)

theorem quiet_failSpec (cause : SpecCause) (context : Option ErrorContext) (level : ErrorLevel) :
    account.Quiet (failSpec cause context level : Build α) := quiet_throw (anyway _)

theorem quiet_checkDepth (settings : Settings) (value : Value) (place : Place) :
    account.Quiet (checkDepth settings value place) := by
  unfold checkDepth
  split
  · exact quiet_pure _
  · split
    · exact Confined.bind sameStock (fun _ => ⟨rfl, rfl, rfl⟩) fun _ => quiet_failSpec anyway _ _ _
    · exact quiet_pure _

theorem accounts_readPart (settings : Settings) (place : Place)
    (isClear : value.isClear account.terms) :
    account.Accounts (value.occurrences account.callee) (readPart settings value place) .silent
      fun spec => spec.elim 0 (Spec.occurrences account.callee) := by
  unfold readPart
  refine (quiet_checkDepth anyway settings value place).bind_silent fun _ => ?_
  refine (accounts_parse anyway settings place.path isClear).chain_silent
    ((kindred_clear account.terms).likewise_parse _ place.path isClear) fun spec _ => ?_
  cases spec with
  | none => exact accounts_pure _ (Nat.zero_le _)
  | some spec =>
      have notes : account.Quiet (note .debug .compiling
          ("Compiling " ++ spec.variant ++ " at " ++ String.join place.path)) :=
        fun _ => ⟨rfl, rfl, rfl⟩
      exact notes.bind_silent fun _ => accounts_pure _ (Nat.le_refl _)

end Reading

/-! ## Nodes and places -/

section Places

variable (anyway : ∀ cause, account.fails cause)

include anyway

theorem quiet_edit (step : Edit α) : account.Quiet (edit step) := by
  intro world
  rw [ensures_edit]
  exact Ensures.of_run (fun _ _ _ => ⟨rfl, rfl, rfl⟩) fun _ _ _ => ⟨⟨rfl, rfl, rfl⟩, anyway _⟩

theorem quiet_implicitParent (target : Target) : account.Quiet (implicitParent target) := by
  unfold implicitParent
  split
  · exact quiet_pure _
  · refine Confined.bind sameStock (quiet_edit anyway _) fun node => ?_
    split
    · exact quiet_pure _
    · exact quiet_failSpec anyway _ _ _

theorem quiet_nearest (place : Place) : account.Quiet place.nearest := by
  unfold Place.nearest
  split
  · exact quiet_pure _
  · exact quiet_implicitParent anyway _

theorem quiet_attach (target : Target) (node : NodeId) : account.Quiet (attach target node) := by
  have finds : account.Quiet (discard (implicitParent target)) := fun world =>
    ensures_discard.mpr (quiet_implicitParent anyway target world)
  refine Confined.bind sameStock finds fun _ => ?_
  exact Confined.bind sameStock (fun _ => ⟨rfl, rfl, rfl⟩) fun _ => quiet_edit anyway _

theorem quiet_scopeAt : ∀ nodes : List NodeId, account.Quiet (scopeAt nodes)
  | [] => quiet_pure _
  | _ :: behind =>
      Confined.bind sameStock (quiet_edit anyway _) fun _ =>
        Confined.bind sameStock quiet_forest fun _ =>
          Confined.bind sameStock (quiet_scopeAt behind) fun _ => quiet_pure _

theorem quiet_resolveFlat (name : String) (flat : List (String × String)) (nodes : List NodeId)
    (context : Option ErrorContext) (level : ErrorLevel) :
    account.Quiet (resolveFlat name flat nodes context level) := by
  have judges (scope : List (String × String)) : account.Quiet
      (resolutionOr name context level (resolveIn scope name (sortAttributes flat))) := by
    unfold resolutionOr
    split
    · exact quiet_pure _
    · exact quiet_failSpec anyway _ _ _
  unfold resolveFlat
  dsimp only
  split
  · exact judges []
  · exact Confined.bind sameStock (quiet_scopeAt anyway nodes) judges

theorem quiet_openSequence (scene : Scene) (place : Place) :
    account.Quiet (openSequence scene place) := by
  refine Confined.bind sameStock (quiet_implicitParent anyway _) fun parent => ?_
  refine Confined.bind sameStock ?_ fun _ => quiet_pure _
  unfold holderFor
  split
  · exact quiet_pure _
  · exact quiet_edit anyway _

theorem quiet_closeSequence (target : Target) (holder : NodeId) (last : Option NodeId) :
    account.Quiet (closeSequence target holder last) := by
  unfold closeSequence
  split
  · exact quiet_attach anyway target holder
  · exact quiet_pure _

theorem quiet_giveDoctype (document : NodeId) (root : Value) (publicId systemId : Option String) :
    account.Quiet (giveDoctype document root publicId systemId) := by
  refine Confined.bind sameStock (quiet_edit anyway _) fun _ => ?_
  refine Confined.bind sameStock ?_ fun _ => Confined.bind sameStock (quiet_edit anyway _) fun _ => ?_
  · unfold doctypeName
    split
    · refine Confined.bind sameStock ?_ fun _ => quiet_pure _
      unfold name
      split
      · exact quiet_pure _
      · exact quiet_throw (anyway _)
      · exact quiet_throw (anyway _)
    · exact quiet_pure _
  · refine Confined.bind sameStock ?_ fun _ =>
      Confined.bind sameStock (quiet_edit anyway _) fun _ => quiet_pure _
    refine Confined.bind sameStock quiet_forest fun forest => ?_
    split
    · exact fun _ => ⟨rfl, rfl, rfl⟩
    · exact quiet_pure _

end Places

/-! ## The content of nodes -/

section Content

variable {scene : Scene} {place : Place} {spec : Spec} {path : List String} {children : List Value}
  {attributes : RawAttributes} (anyway : ∀ cause, account.fails cause)
  (own : account.arguments = scene.arguments) (given : AreClear account.terms scene.arguments)

/-- The step after which nothing is called may be of any kind. -/
theorem Accounts.then_quiet {first : Build α} {next : α → Build β} {trace : Trace} {owed : Nat}
    {lefts : α → Nat} {R : α → Prop} (onFirst : account.Accounts owed first trace lefts)
    (likewise : Likewise account.terms.likeness R first first)
    (quiet : ∀ result, account.Quiet (next result)) :
    account.Accounts owed (first >>= next) trace fun _ => 0 :=
  onFirst.chain_silent likewise fun result _ =>
    ((quiet result).accounts _).weaken (Nat.le_refl _) fun _ => Nat.zero_le _

include own given

theorem accounts_text {value : Value} (isClear : value.isClear account.terms) :
    account.Accounts (value.occurrences account.callee) (flatten scene.arguments value)
      (textCalls scene.arguments value) fun _ => 0 := by
  rw [← own] at given ⊢
  exact accounts_flatten given isClear

theorem accounts_childrenText (areClear : AreClear account.terms children) :
    account.Accounts (occurrencesAll account.callee children) (childrenText scene children)
      (textCalls scene.arguments (.list children)) fun _ => 0 :=
  (accounts_text own given ((inherited_isClear _).list.mpr areClear)).map fun _ => Nat.le_refl 0

theorem accounts_pseudoAttributes : ∀ {attributes : RawAttributes},
    (∀ entry ∈ attributes, entry.2.isClear account.terms) →
    account.Accounts (occurrencesOf account.callee attributes) (pseudoAttributes scene attributes)
      (textsCalls scene.arguments (attributes.map Prod.snd)) fun _ => 0
  | [], _ => accounts_pure _ (Nat.le_refl 0)
  | (key, value) :: rest, areClear => by
      rw [List.forall_mem_cons] at areClear
      refine (accounts_text own given areClear.1).bind
        ((kindred_clear account.terms).likewise_flatten given areClear.1) fun text _ => ?_
      rw [Nat.zero_add]
      cases text with
      | none => exact accounts_pseudoAttributes areClear.2
      | some text => exact (accounts_pseudoAttributes areClear.2).map fun _ => Nat.le_refl 0

theorem accounts_identifier (index : Nat) (key : String) (areClear : AreClear account.terms children)
    (areAttributes : ∀ entry ∈ attributes, entry.2.isClear account.terms) :
    account.Accounts ((children[index]?.getD Value.null).occurrences account.callee +
        ((attributes.lookup key).getD Value.null).occurrences account.callee)
      (identifier scene children index key attributes)
      (identifierCalls scene children index key attributes) fun _ => 0 := by
  have kindred := kindred_clear account.terms
  have child := kindred.inherited.of_getElem areClear index
  unfold identifier identifierCalls
  refine (accounts_text own given child).bind (kindred.likewise_flatten given child)
    fun text _ => ?_
  rw [Nat.zero_add]
  cases text with
  | some text => exact accounts_pure _ (Nat.zero_le _)
  | none => exact accounts_text own given (kindred.inherited.of_lookup areAttributes key)

include anyway

theorem accounts_leadingText (kind : SpecialKind) (areClear : AreClear account.terms children) :
    account.Accounts ((children.head?.getD Value.null).occurrences account.callee)
      (leadingText scene kind spec path children) (leadingCalls scene children) fun _ => 0 := by
  have kindred := kindred_clear account.terms
  have first : (children.head?.getD Value.null).isClear account.terms :=
    List.head?_eq_getElem? ▸ kindred.inherited.of_getElem areClear 0
  unfold leadingText
  refine (accounts_text own given first).then_quiet (kindred.likewise_flatten given first)
    fun text => ?_
  cases text with
  | some text => exact quiet_pure _
  | none =>
      exact Confined.bind sameStock (fun _ => ⟨rfl, rfl, rfl⟩) fun _ => quiet_failSpec anyway _ _ _

theorem accounts_buildInstruction (areClear : AreClear account.terms children)
    (areAttributes : ∀ entry ∈ attributes, entry.2.isClear account.terms) :
    account.Accounts
      (occurrencesAll account.callee children + occurrencesOf account.callee attributes)
      (buildInstruction scene spec path children attributes)
      (instructionCalls scene spec path children attributes) fun _ => 0 := by
  have kindred := kindred_clear account.terms
  have alike : scene.Like scene := ⟨rfl, rfl⟩
  have whole : occurrencesAll account.callee children =
      (children.head?.getD Value.null).occurrences account.callee +
        occurrencesAll account.callee children.tail := by
    cases children <;> rfl
  rw [whole, Nat.add_assoc]
  unfold buildInstruction instructionCalls
  refine (accounts_leadingText anyway own given .instruction areClear).bind
    (kindred.likewise_leadingText alike given .instruction areClear) fun target _ => ?_
  rw [Nat.zero_add]
  have areClear : AreClear account.terms children.tail :=
    fun child among => areClear child (List.mem_of_mem_tail among)
  cases others : children.tail with
  | nil =>
      have sorted : ∀ entry ∈ Text.sortByText Prod.fst attributes, entry.2.isClear account.terms :=
        fun entry among => areAttributes entry (Text.mem_sortByText.mp among)
      have perm : occurrencesOf account.callee (Text.sortByText Prod.fst attributes) =
          occurrencesOf account.callee attributes :=
        Value.occurrencesAll_of_perm ((Text.perm_sortByText Prod.fst attributes).map _)
      rw [← perm]
      refine ((accounts_pseudoAttributes own given sorted).then_quiet
        (kindred.likewise_pseudoAttributes alike given sorted) fun pairs => ?_).weaken
        (Nat.le_add_left _ _) fun _ => Nat.le_refl 0
      exact Confined.bind sameStock (quiet_pure _) fun _ => quiet_edit anyway _
  | cons second rest =>
      rw [others] at areClear
      exact ((accounts_childrenText own given areClear).then_quiet
        (kindred.likewise_childrenText alike given areClear) fun _ => quiet_edit anyway _).weaken
        (Nat.le_add_right _ _) fun _ => Nat.le_refl 0

/-- The children that a doctype is made of are different ones, and so are the attributes. -/
theorem accounts_buildDoctype (areClear : AreClear account.terms children)
    (areAttributes : ∀ entry ∈ attributes, entry.2.isClear account.terms) :
    account.Accounts
      (occurrencesAll account.callee children + occurrencesOf account.callee attributes)
      (buildDoctype scene spec path children attributes)
      (doctypeCalls scene spec path children attributes) fun _ => 0 := by
  have kindred := kindred_clear account.terms
  have alike : scene.Like scene := ⟨rfl, rfl⟩
  have ofChildren := occurrences_children_le account.callee children
  have ofAttributes := occurrences_lookups_le account.callee
    (show "public" ≠ "system" by decide) attributes
  let publicly := (children[1]?.getD Value.null).occurrences account.callee +
    ((attributes.lookup "public").getD Value.null).occurrences account.callee
  let systemwide := (children[2]?.getD Value.null).occurrences account.callee +
    ((attributes.lookup "system").getD Value.null).occurrences account.callee
  have most : (children.head?.getD Value.null).occurrences account.callee +
      (publicly + systemwide) ≤
        occurrencesAll account.callee children + occurrencesOf account.callee attributes := by
    dsimp only [publicly, systemwide]
    omega
  refine Accounts.weaken ?_ most fun _ => Nat.le_refl 0
  unfold buildDoctype doctypeCalls
  refine (accounts_leadingText anyway own given .doctype areClear).bind
    (kindred.likewise_leadingText alike given .doctype areClear) fun name _ => ?_
  rw [Nat.zero_add]
  refine (accounts_identifier own given 1 "public" areClear areAttributes).bind
    (kindred.likewise_identifier alike given 1 "public" areClear areAttributes) fun publicId _ => ?_
  rw [Nat.zero_add]
  exact (accounts_identifier own given 2 "system" areClear areAttributes).then_quiet
    (kindred.likewise_identifier alike given 2 "system" areClear areAttributes)
    fun systemId => quiet_giveDoctype anyway _ _ _ _

/-- What a leaf is made of is used up. -/
theorem accounts_makeLeaf (isClear : spec.IsClear account.terms) (isLeaf : spec.isLeaf) :
    account.Accounts (spec.occurrences account.callee) (makeLeaf scene place.path spec)
      (spec.calls scene place) fun _ => 0 := by
  have kindred := kindred_clear account.terms
  have inherited := inherited_isClear account.terms
  have alike : scene.Like scene := ⟨rfl, rfl⟩
  cases spec with
  | comment children =>
      have areClear := inherited.comment.mp isClear
      exact (accounts_childrenText own given areClear).then_quiet
        (kindred.likewise_childrenText alike given areClear) fun _ => quiet_edit anyway _
  | cdata children =>
      have areClear := inherited.cdata.mp isClear
      exact (accounts_childrenText own given areClear).then_quiet
        (kindred.likewise_childrenText alike given areClear) fun _ => quiet_edit anyway _
  | instruction children attributes =>
      obtain ⟨areClear, areAttributes⟩ := inherited.instruction.mp isClear
      exact accounts_buildInstruction anyway own given areClear areAttributes
  | existing node => exact (quiet_edit anyway _).accounts 0
  | text value =>
      have makes : account.Quiet (makeLeaf scene place.path (.text value)) :=
        Confined.bind sameStock quiet_describe fun _ => quiet_edit anyway _
      exact makes.accounts 0
  | sequence | callable | element | doctype => cases isLeaf

theorem accounts_buildLeaf (isClear : spec.IsClear account.terms) (isLeaf : spec.isLeaf) :
    account.Accounts (spec.occurrences account.callee) (buildLeaf scene place spec)
      (spec.calls scene place) fun _ => 0 := by
  unfold buildLeaf
  exact (accounts_makeLeaf anyway own given isClear isLeaf).then_quiet
    (likewise_makeLeaf given isClear) fun _ =>
      Confined.bind sameStock (quiet_attach anyway _ _) fun _ => quiet_pure _

/-- The name and the attributes of an element are used up. -/
theorem accounts_makeElement {name : Value} (isName : name.isClear account.terms)
    (areAttributes : ∀ entry ∈ attributes, entry.2.isClear account.terms) :
    account.Accounts (name.occurrences account.callee + occurrencesOf account.callee attributes)
      (makeElement scene place spec name attributes) (elementCalls scene place name attributes)
      fun _ => 0 := by
  have kindred := kindred_clear account.terms
  have resolves (text : String) (nodes : List NodeId) (context : Option ErrorContext)
      (level : ErrorLevel) : account.Accounts (occurrencesOf account.callee attributes)
        (resolve text attributes nodes scene.arguments context level)
        (textsCalls scene.arguments (attributes.map Prod.snd)) fun _ => 0 := by
    rw [← own] at given ⊢
    exact (accounts_flattenAttributes given attributes areAttributes).then_quiet
      (kindred.likewise_flattenAttributes given attributes areAttributes)
      fun flat => quiet_resolveFlat anyway text flat nodes context level
  have starts : Trace.silent.andThen (specContext spec place.path "element")
      (fun _ => elementCalls scene place name attributes) =
        elementCalls scene place name attributes := rfl
  suffices resolves : account.Accounts
      (name.occurrences account.callee + occurrencesOf account.callee attributes)
      (resolveElement scene place spec name attributes) (elementCalls scene place name attributes)
      fun _ => 0 from
    resolves.then_quiet (likewise_resolveElement given (.refl place) isName areAttributes)
      fun found => Confined.bind sameStock (quiet_edit anyway _) fun _ =>
        Confined.bind sameStock (quiet_attach anyway _ _) fun _ => quiet_pure _
  unfold resolveElement
  rw [← starts]
  refine Quiet.bind (fun _ => ⟨rfl, rfl, rfl⟩) fun context => ?_
  refine (accounts_text own given isName).bind (kindred.likewise_flatten given isName)
    fun text _ => ?_
  rw [Nat.zero_add]
  cases text with
  | none => exact accounts_throw anyway _ _ _
  | some text =>
      refine (quiet_nearest anyway place).bind fun near => ?_
      exact (resolves text _ _ _).map fun _ => Nat.le_refl 0

end Content

/-! ## Builds -/

section Settles

variable {α β : Type} {first : Build α} {next : α → Build β} {owed : Nat} {world : World}
  {calls more : List Invocation}

/-- However a step ends, it has made these calls, and they have used up what was owed. -/
def Settles (account : Account) {α : Type} (owed : Nat) (step : Build α) (world : World)
    (calls : List Invocation) : Prop :=
  Ensures step world (fun _ after => account.Balances owed world calls 0 after)
    fun _ after => account.Balances owed world calls 0 after

theorem Accounts.settles {trace : Trace} {lefts : α → Nat}
    (accounts : account.Accounts owed first trace lefts) (even : world.Even account.terms world) :
    account.Settles owed first world (trace world) :=
  (accounts world even).mono (fun _ _ ends => ends.weaken (Nat.le_refl _) (Nat.zero_le _))
    fun _ _ ends => ends.1

/-- A step that is followed by another one is settled if that one settles what it left. -/
theorem settles_bind (left : α → Nat)
    (onOk : ∀ result middle, first world = .ok result middle →
      account.Balances owed world calls (left result) middle ∧
        account.Settles (left result) (next result) middle more)
    (onError : ∀ cause middle, first world = .error cause middle →
      account.Balances owed world (calls ++ more) 0 middle) :
    account.Settles owed (first >>= next) world (calls ++ more) := by
  rw [Settles, MarkupSpec.ensures_bind]
  refine Ensures.of_run (fun result middle run => ?_) fun cause middle run => onError cause middle run
  obtain ⟨begins, ends⟩ := onOk result middle run
  exact ends.mono (fun _ _ ends => begins.trans ends) fun _ _ ends => begins.trans ends

/-- What follows may call nothing. -/
theorem Settles.then_quiet (settles : account.Settles owed first world calls)
    (quiet : ∀ result, account.Quiet (next result)) :
    account.Settles owed (first >>= next) world calls := by
  rw [← List.append_nil calls]
  refine settles_bind (fun _ => 0) (fun result middle run => ⟨settles.of_ok run, ?_⟩)
    fun cause middle run => ?_
  · exact (quiet result middle).mono (fun _ _ same => .of_same same) fun _ _ ends => .of_same ends.1
  · exact (List.append_nil calls).symm ▸ settles.of_error run

end Settles

section Builds

variable {scene : Scene} {budget : Nat}

/-- Builds of clear values balance their calls. -/
def Builds (account : Account) (scene : Scene) (budget : Nat) : Prop :=
  ∀ start : Visit, start.value.isClear account.terms →
    start.world.Even account.terms start.world →
    account.Settles (start.value.occurrences account.callee)
      (buildWithin scene budget start.value start.place) start.world
      (visitCalls scene (visitsWithin scene budget start))

variable (anyway : ∀ cause, account.fails cause) (own : account.arguments = scene.arguments)
  (given : AreClear account.terms scene.arguments) (levelled : account.terms.levelled)
  (deep : account.terms.mayBeDeep)

include given levelled deep

/-- Clear worlds stay clear when a clear value is built. -/
theorem even_of_build {value : Value} {place : Place} {world after : World} {node : Option NodeId}
    (isClear : value.isClear account.terms) (even : world.Even account.terms world)
    (run : buildWithin scene budget value place world = .ok node after) :
    after.Even account.terms after := by
  have echoes := likewise_buildWithin deep given budget budget (.inl ⟨levelled, rfl⟩) value place
    place isClear (.refl place) world world even
  rw [run] at echoes
  cases echoes with
  | ok _ goes => exact goes

theorem settles_buildMembers (builds : account.Builds scene budget) (enclosing : Enclosing)
    (inside : Place) : ∀ (items : List Value) (index : Nat) (last : Option NodeId) (world : World),
      AreClear account.terms items → world.Even account.terms world →
      account.Settles (occurrencesAll account.callee items)
        (buildMembers (buildWithin scene budget) inside index last items) world
        (visitCalls scene (memberVisits (visitsWithin scene budget) (buildWithin scene budget)
          enclosing inside index world items))
  | [], _, _, world, _, _ => Balances.refl 0 world
  | item :: rest, index, last, world, areClear, even => by
      rw [AreClear, List.forall_mem_cons] at areClear
      have builds' := builds
        { value := item, place := inside.deeper (memberSegment index), world, enclosing }
        areClear.1 even
      rw [buildMembers, memberVisits, visitCalls_append]
      refine settles_bind (fun _ => occurrencesAll account.callee rest) (fun node middle run => ?_)
        fun cause middle run => ?_
      · have begins := (builds'.of_ok run).frame (occurrencesAll account.callee rest)
        have even := even_of_build given levelled deep areClear.1 even run
        rw [Nat.zero_add] at begins
        rw [run]
        exact ⟨begins, settles_buildMembers builds enclosing inside rest (index + 1) _ middle
          areClear.2 even⟩
      · rw [run]
        have ends := builds'.of_error run
        exact (List.append_nil _).symm ▸ ends.weaken (Nat.le_add_right _ _) (Nat.le_refl 0)

section Parts

variable {start : Visit} {world : World} (builds : account.Builds scene budget)
  (even : world.Even account.terms world)

include anyway builds even

/-- A sequence is used up by the visits of its members. -/
theorem settles_buildSequence {items : List Value} (areClear : AreClear account.terms items) :
    account.Settles (occurrencesAll account.callee items)
      (buildSequence scene (buildWithin scene budget) start.place items) world
      (visitCalls scene (innerVisits scene (visitsWithin scene budget) (buildWithin scene budget)
        start world (.sequence items))) := by
  have opening := quiet_openSequence anyway scene start.place world
  unfold buildSequence
  rw [← List.nil_append (visitCalls scene _), innerVisits]
  refine settles_bind (fun _ => occurrencesAll account.callee items)
    (fun inside opened run => ?_) fun cause after run => ?_
  · have opens := opening.of_ok run
    have members := settles_buildMembers given levelled deep builds start.enclosing inside items 0
      none opened areClear (opens.even even)
    rw [run]
    refine ⟨.of_same opens, members.then_quiet fun last => ?_⟩
    exact Confined.bind sameStock (quiet_closeSequence anyway _ _ last) fun _ => quiet_pure _
  · rw [run]
    exact (Balances.of_same (opening.of_error run).1).weaken (Nat.le_refl _) (Nat.zero_le _)

omit anyway levelled deep in
include own in
/-- A function is used up by its call, and what it gives by the visits of that. -/
theorem settles_returned {callee : Function}
    (isClear : (Value.function callee).isClear account.terms) :
    account.Settles ((Value.function callee).occurrences account.callee)
      (callee.call scene.arguments >>= fun value =>
        buildWithin scene budget value (start.place.deeper "()")) world
      (Trace.one callee scene.arguments world ++ visitCalls scene (innerVisits scene
        (visitsWithin scene budget) (buildWithin scene budget) start world (.callable callee))) := by
  rw [← own] at given
  have calls := accounts_call callee world even
  have likewise := (kindred_clear account.terms).likewise_call given isClear world world even
  rw [innerVisits, ← own]
  refine settles_bind (Value.occurrences account.callee) (fun value after run => ?_)
    fun cause after run => ?_
  · have begins := calls.of_ok run
    rw [run] at likewise ⊢
    cases likewise with
    | ok holds even =>
        exact ⟨begins, builds
          { start with value, place := start.place.deeper "()", world := after } holds.2 even⟩
  · rw [run]
    exact (List.append_nil _).symm ▸ (calls.of_error run).1

omit levelled deep in
include own in
/-- The name and the attributes of an element are used up where it is made, and its children by
their visits. -/
theorem settles_buildElement {name : Value} {attributes : RawAttributes} {children : List Value}
    (part : start.part? scene = some (.element name attributes children, world))
    (isClear : (Spec.element name attributes children).IsClear account.terms) :
    account.Settles ((Spec.element name attributes children).occurrences account.callee)
      (buildElement scene (buildWithin scene budget) start.place (.element name attributes children)
        name attributes children) world
      (elementCalls scene start.place name attributes world ++ visitCalls scene (innerVisits scene
        (visitsWithin scene budget) (buildWithin scene budget) start world
        (.element name attributes children))) := by
  have inherited := inherited_isClear account.terms
  obtain ⟨isName, areAttributes, areClear⟩ := inherited.element.mp isClear
  have makes : account.Accounts
      (name.occurrences account.callee + occurrencesOf account.callee attributes)
      (makeElement scene start.place (.element name attributes children) name attributes)
      (elementCalls scene start.place name attributes) fun _ => 0 :=
    accounts_makeElement anyway own given isName areAttributes
  have likewise : Echoes account.terms.likeness (Made.Matches account.terms)
      (makeElement scene start.place (.element name attributes children) name attributes world)
      (makeElement scene start.place (.element name attributes children) name attributes world) :=
    echo_makeElement given (.refl start.place) isName areAttributes world world even
  have whole : (Spec.element name attributes children).occurrences account.callee =
      name.occurrences account.callee + occurrencesOf account.callee attributes +
        occurrencesAll account.callee children := (Nat.add_assoc _ _ _).symm
  rw [whole, innerVisits]
  unfold buildElement
  refine settles_bind (fun _ => occurrencesAll account.callee children)
    (fun made after run => ?_) fun cause after run => ?_
  · have isMade : start.made? scene = some (made, after) := by simp only [Visit.made?, part, run]
    have begins := ((makes world even).of_ok run).frame (occurrencesAll account.callee children)
    rw [Nat.zero_add] at begins
    rw [run] at likewise
    rw [isMade]
    refine ⟨begins, ?_⟩
    dsimp only
    split
    · exact (Balances.refl _ after).weaken (Nat.le_refl _) (Nat.zero_le _)
    · cases likewise with
      | ok _ even =>
          exact (builds
            { value := .list children, place := made.inside, world := after,
              enclosing := made.resolution.declarations :: start.enclosing }
            (inherited.list.mpr areClear) even).then_quiet fun _ => quiet_pure _
  · have notMade : start.made? scene = none := by simp only [Visit.made?, part, run]
    rw [notMade]
    exact (List.append_nil _).symm ▸
      ((makes world even).of_error run).1.weaken (Nat.le_add_right _ _) (Nat.le_refl 0)

include own in
/-- What a value was read as is used up by its own calls and those of the visits inside of it. -/
theorem settles_buildSpec {spec : Spec} (part : start.part? scene = some (spec, world))
    (isClear : spec.IsClear account.terms) :
    account.Settles (spec.occurrences account.callee)
      (buildSpec scene (buildWithin scene budget) start.place spec) world
      (spec.calls scene start.place world ++ visitCalls scene (innerVisits scene
        (visitsWithin scene budget) (buildWithin scene budget) start world spec)) := by
  have inherited := inherited_isClear account.terms
  cases spec with
  | sequence items =>
      exact settles_buildSequence anyway given levelled deep builds even
        (inherited.sequence.mp isClear)
  | callable callee =>
      exact settles_returned own given builds even (Spec.has_callable.mp isClear)
  | element name attributes children =>
      exact settles_buildElement anyway own given builds even part isClear
  | doctype children attributes =>
      obtain ⟨areClear, areAttributes⟩ := inherited.doctype.mp isClear
      have makes : account.Accounts _
          (buildDoctype scene (.doctype children attributes) start.place.path children attributes)
          (doctypeCalls scene _ start.place.path children attributes) fun _ => 0 :=
        accounts_buildDoctype anyway own given areClear areAttributes
      exact (List.append_nil _).symm ▸ (makes.settles even).then_quiet fun _ => quiet_pure _
  | comment | cdata | instruction | existing | text =>
      exact (List.append_nil _).symm ▸ (accounts_buildLeaf anyway own given isClear rfl).settles even

end Parts

include anyway own

/-- Builds balance their calls. -/
theorem builds_buildWithin : ∀ budget : Nat, account.Builds scene budget
  | 0, start, _, _ => (Balances.refl _ start.world).weaken (Nat.le_refl _) (Nat.zero_le _)
  | budget + 1, start, isClear, even => by
      have reads := accounts_readPart anyway scene.settings start.place isClear start.world even
      have checks : Likewise account.terms.likeness Anything
          (checkDepth scene.settings start.value start.place)
          (checkDepth scene.settings start.value start.place) := likewise_checkDepth deep (.inr rfl)
      have likewise := (kindred_clear account.terms).likewise_readPart checks isClear start.world
        start.world even
      have nothing (part : start.part? scene = none) :
          visitCalls scene (visitsWithin scene (budget + 1) start) = [] := by
        simp [visitsWithin, visitCalls, Visit.calls, part]
      rw [← List.nil_append (visitCalls scene _), buildWithin]
      refine settles_bind _ (fun found world run => ⟨reads.of_ok run, ?_⟩) fun cause world run => ?_
      · rw [run] at likewise
        cases found with
        | none =>
            have part : start.part? scene = none := by simp only [Visit.part?, run]
            rw [nothing part]
            exact (Balances.refl _ world).weaken (Nat.le_refl _) (Nat.zero_le _)
        | some spec =>
            have part : start.part? scene = some (spec, world) := by simp only [Visit.part?, run]
            have whole : visitCalls scene (visitsWithin scene (budget + 1) start) =
                spec.calls scene start.place world ++ visitCalls scene (innerVisits scene
                  (visitsWithin scene budget) (buildWithin scene budget) start world spec) := by
              rw [visitsWithin, part]
              simp [visitCalls, Visit.calls, part]
            rw [whole]
            cases likewise with
            | ok holds even =>
                exact settles_buildSpec anyway own given levelled deep (builds_buildWithin budget)
                  even part (holds.2 spec rfl)
      · have part : start.part? scene = none := by simp only [Visit.part?, run]
        rw [nothing part]
        exact (reads.of_error run).1

end Builds

end Account

/-! ## Getting ready -/

theorem Account.quiet_nodeOrNone {account : Account} (value : Value) :
    account.Quiet (nodeOrNone value) := by
  unfold nodeOrNone
  split
  · exact quiet_pure _
  · exact Confined.bind sameStock quiet_forest fun _ => quiet_pure _

/-- Spreading a value may read a stream, and calls nothing. -/
theorem sameLog_spread (value : Value) :
    Confined World.SameLog (fun _ => True) (spread value) := by
  have drains (id : Nat) : Confined World.SameLog (fun _ => True) (drain id) := fun _ => rfl
  have pures {α : Type} (result : α) :
      Confined World.SameLog (fun _ => True) (pure result : Build α) := confined_pure sameLog result
  have throws {α : Type} (cause : Failure) :
      Confined World.SameLog (fun _ => True) (throw cause : Build α) :=
    confined_throw sameLog trivial
  cases value with
  | range start stop step =>
      show Confined _ _ (rangeMembers start stop step)
      unfold rangeMembers
      dsimp only
      split
      · exact throws _
      · split
        · exact throws _
        · exact pures _
  | stream id => exact drains id
  | set | text | bytes | map | list | tuple => exact pures _
  | _ => exact throws _

/-- Getting ready calls nothing. -/
theorem sameLog_prepare (settings : Settings) (where? : Option (Mode × Value))
    (document arguments : Value) :
    Confined World.SameLog (fun _ => True) (prepare settings where? document arguments) := by
  -- Only the arguments may be read from a stream; what comes after leaves the streams alone.
  let account : Account :=
    { terms := {}, callee := 0, arguments := [], fails := fun _ => True
      ofValue := fun _ _ => trivial }
  have anyway : ∀ cause, account.fails cause := fun _ => trivial
  have weaken {α : Type} {step : Build α} (quiet : account.Quiet step) :
      Confined World.SameLog (fun _ => True) step := fun world =>
    (quiet world).mono (fun _ _ same => same.calls) fun _ _ ends => ⟨ends.1.calls, trivial⟩
  unfold prepare
  refine Confined.bind sameLog (sameLog_spread arguments) fun given => weaken ?_
  split
  · refine Confined.bind sameStock ?_ fun root =>
      Confined.bind sameStock (Account.quiet_nodeOrNone root) fun _ => Account.quiet_pure _
    unfold rootDocument
    split
    · exact Confined.bind sameStock (Account.quiet_edit anyway _) fun _ => Account.quiet_pure _
    · exact Account.quiet_pure _
  · refine Confined.bind sameStock ?_ fun _ => Confined.bind sameStock (fun world =>
      ensures_discard.mpr (Account.quiet_implicitParent anyway _ world)) fun _ => Account.quiet_pure _
    unfold documentFor
    split
    · refine Confined.bind sameStock Account.quiet_forest fun forest => ?_
      split
      · exact Account.quiet_pure _
      · exact Account.quiet_throw trivial
    · exact Account.quiet_nodeOrNone _
  · exact Confined.bind sameStock (fun _ => ⟨rfl, rfl, rfl⟩) fun _ =>
      Account.quiet_failSpec anyway _ _ _

/-! ## What builds call -/

/-- The streams that are set aside in a world. -/
def World.setAside (world : World) (apart : Nat → Bool) : Terms where
  names := world.names
  aside := fun id => if apart id then (world.streams[id]?).map fun items => (items, items) else none

/-- Some streams are out of reach: the values do not go by them, nor does what has a name, nor what
is left in other streams. -/
structure World.OutOfReach (world : World) (apart : Nat → Bool) (values : List Value) : Prop where
  values : AreClear (world.setAside apart) values
  names : ∀ entry ∈ world.names, entry.2.isClear (world.setAside apart)
  streams : ∀ id, apart id = false →
    AreClear (world.setAside apart) ((world.streams[id]?).getD [])

theorem World.OutOfReach.even {world : World} {apart : Nat → Bool} {values : List Value}
    (beyond : world.OutOfReach apart values) : world.Even (world.setAside apart) world where
  forest := rfl
  nextId := rfl
  names := rfl
  names' := rfl
  clear := beyond.names
  size := rfl
  streams id := by
    have areClear := beyond.streams id
    cases isApart : apart id with
    | false =>
        have kept : (world.setAside apart).aside id = none := by simp [setAside, isApart]
        cases there : world.streams[id]? with
        | none => exact .missing kept
        | some items => exact .same kept (by simpa [there] using areClear isApart)
    | true =>
        cases there : world.streams[id]? with
        | none => exact .missing (by simp [setAside, isApart, there])
        | some items => exact .unread (by simp [setAside, isApart, there])
  calls _ := rfl

/-- How often a function is to be found in a build that is ready: in the spec, in the streams that
are not set aside, and in what calls return. -/
def Task.finds (spec : Value) (start : World) (apart : Nat → Bool) (callee : Nat)
    (calls : List Invocation) : Nat :=
  spec.occurrences callee + start.held (start.setAside apart) callee +
    (calls.map (Invocation.gain (start.setAside apart) callee)).sum

/-- The calls of a build, from one world to another. -/
structure CallsOnce (settings : Settings) (spec : Value) (where? : Option (Mode × Value))
    (document arguments : Value) (calls : List Invocation) (before after : World) : Prop where
  /-- The log has grown by the calls of functions with a label. -/
  logged : after.calls.toList = before.calls.toList ++ calls.filterMap Invocation.record?
  /-- Every call has the arguments of the build. -/
  given : ∀ call ∈ calls, ∃ read, spread arguments before = .ok call.arguments read
  /-- A function is called no more often than it is to be found.  Streams that are out of reach do
  not count. -/
  counted : ∀ task start, prepare settings where? document arguments before = .ok task start →
    ∀ apart callee, start.OutOfReach apart (spec :: task.scene.arguments) →
      calls.countP (fun call => call.function.id == callee) ≤
        Task.finds spec start apart callee calls
  /-- The calls for each element are in order. -/
  ordered : ∀ task start, prepare settings where? document arguments before = .ok task start →
    ∀ visit ∈ task.visits spec start, ∀ name attributes children read,
      visit.part? task.scene = some (.element name attributes children, read) →
      CallsInOrder task.scene calls visit name attributes children read

/-- The account of one function in a build that is ready. -/
def Task.account (task : Task) (start : World) (apart : Nat → Bool) (callee : Nat) : Account where
  terms := start.setAside apart
  callee := callee
  arguments := task.scene.arguments
  fails := fun _ => True
  ofValue := fun _ _ => trivial

/-- Going from one world to another, the calls of a build that is ready were balanced for every
function, whichever streams that are out of reach are set aside. -/
def Task.Balanced (task : Task) (spec : Value) (start after : World) : Prop :=
  ∀ apart callee, start.OutOfReach apart (spec :: task.scene.arguments) →
    (task.account start apart callee).Balances (spec.occurrences callee) start
      (visitCalls task.scene (task.visits spec start)) 0 after

theorem Task.balanced (task : Task) (spec : Value) (start : World) :
    Ensures (buildWithin task.scene task.scene.settings.budget spec { target := task.target }) start
      (fun _ after => task.Balanced spec start after)
      fun _ after => task.Balanced spec start after := by
  have builds (apart : Nat → Bool) (callee : Nat)
      (beyond : start.OutOfReach apart (spec :: task.scene.arguments)) :=
    (task.account start apart callee).builds_buildWithin
      (fun _ => trivial) rfl (fun item among => beyond.values item (.tail _ among)) trivial trivial
      task.scene.settings.budget { value := spec, place := { target := task.target }, world := start }
      (beyond.values spec List.mem_cons_self) beyond.even
  exact Ensures.of_run (fun _ _ run apart callee beyond => (builds apart callee beyond).of_ok run)
    fun _ _ run apart callee beyond => (builds apart callee beyond).of_error run

/-- Nothing has to be set aside. -/
theorem World.outOfReach_nothing (world : World) (values : List Value) :
    world.OutOfReach (fun _ => false) values := by
  have nothing (id : Nat) : (world.setAside fun _ => false).aside id = none := rfl
  exact
    { values := fun value _ => Value.isClear_of_nothing nothing value
      names := fun entry _ => Value.isClear_of_nothing nothing entry.2
      streams := fun _ _ value _ => Value.isClear_of_nothing nothing value }

/-- The calls that are balanced are made once and in order. -/
theorem callsOnce_of_balanced {settings : Settings} {spec : Value} {where? : Option (Mode × Value)}
    {document arguments : Value} {before start after : World} {task : Task}
    (prepared : prepare settings where? document arguments before = .ok task start)
    (balanced : task.Balanced spec start after) :
    CallsOnce settings spec where? document arguments
      (visitCalls task.scene (task.visits spec start)) before after := by
  have any := balanced (fun _ => false) 0 (start.outOfReach_nothing _)
  have sameLog : start.calls = before.calls :=
    (sameLog_prepare settings where? document arguments before).of_ok prepared
  obtain ⟨-, read, spreads⟩ := scene_of_prepare prepared
  refine
    { logged := sameLog ▸ any.logged
      given := fun call among => ⟨read, (any.given call among).symm ▸ spreads⟩
      counted := ?_
      ordered := ?_ }
  · intro task' start' prepared' apart callee beyond
    rw [prepared] at prepared'
    cases prepared'
    have counted := (balanced apart callee beyond).counted
    exact Nat.le_trans (Nat.le_add_right _ _) counted
  · intro task' start' prepared' visit among name attributes children read part
    rw [prepared] at prepared'
    cases prepared'
    let whole : Visit := { value := spec, place := { target := task.target }, world := start }
    have inside : visit ∈ whole.inner task.scene := among
    exact callsInOrder_of_visit inside part

/-- However a build ends, its functions were called with the arguments of the build, none more often
than it was to be found, and for each element in order. -/
theorem compile_calls (settings : Settings) (spec : Value) (where? : Option (Mode × Value))
    (document arguments : Value) (before : World) :
    Ensures (compile settings spec where? document arguments) before
      (fun _ after => CallsOnce settings spec where? document arguments
        (compileCalls settings spec where? document arguments before) before after)
      fun _ after => CallsOnce settings spec where? document arguments
        (compileCalls settings spec where? document arguments before) before after := by
  unfold compile compileWithin compileCalls
  rw [MarkupSpec.ensures_bind]
  refine Ensures.of_run (fun task start prepared => ?_) fun cause after prepared => ?_
  · have builds := task.balanced spec start
    rw [(scene_of_prepare prepared).1] at builds
    rw [prepared, MarkupSpec.ensures_bind]
    exact builds.mono (fun _ _ balanced => callsOnce_of_balanced prepared balanced)
      fun _ _ balanced => callsOnce_of_balanced prepared balanced
  · rw [prepared]
    have sameLog : after.calls = before.calls :=
      ((sameLog_prepare settings where? document arguments before).of_error prepared).1
    exact
      { logged := by simp [sameLog]
        given := fun _ among => absurd among List.not_mem_nil
        counted := fun task start prepared' => by rw [prepared] at prepared'; cases prepared'
        ordered := fun task start prepared' => by rw [prepared] at prepared'; cases prepared' }

/-- An element whose name, attribute and children are functions, of which one returns another one
that fails. -/
def calling : Value :=
  .map
    [(.text "a", .function { id := 1, label := some "attribute", body := .argument 0 }),
      (.null, .list
        [.function { id := 2, label := some "name", body := .text "e" },
          .function { id := 3, label := some "child", body := .function (some "inner") (.fail "no") },
          .function { id := 4, label := some "last", body := .null }])]

/-- The calls up to the failure are made once and in order. -/
theorem compile_calls_calling :
    ∃ cause after,
      compile {} calling (some (.under, .node 1)) .null (.tuple [.text "v"]) smallWorld =
        .error cause after ∧
      after.calls.toList.map Call.label = ["name", "attribute", "child", "inner"] ∧
      CallsOnce {} calling (some (.under, .node 1)) .null (.tuple [.text "v"])
        (compileCalls {} calling (some (.under, .node 1)) .null (.tuple [.text "v"]) smallWorld)
        smallWorld after := by
  have ends : endsIn (compile {} calling (some (.under, .node 1)) .null (.tuple [.text "v"]))
      smallWorld (fun _ _ => False)
      fun _ after => after.calls.toList.map Call.label = ["name", "attribute", "child", "inner"] := by
    decide +kernel
  cases run : compile {} calling (some (.under, .node 1)) .null (.tuple [.text "v"]) smallWorld with
  | ok => exact (done_of_endsIn ends run).elim
  | error cause after =>
      have labels := failed_of_endsIn ends run
      exact ⟨cause, after, rfl, labels,
        (compile_calls {} calling (some (.under, .node 1)) .null (.tuple [.text "v"])
          smallWorld).of_error run⟩

end MarkupSpec
