import Mathlib.Data.List.Perm.Basic
import MarkupSpec.Proofs.Flatten.StreamlessResult
import MarkupSpec.Proofs.Spec.AttributeOrder
import MarkupSpec.Proofs.Spec.StreamlessReading

/-!
# Maps in another order

A value is reordered if the entries of some of its maps, wherever these are, are put into another
order (`Reordered`).  Each of these maps has to tell its entries apart (`TellsApart`): no two of
its keys have the same text, and no two of them declare the same qualifier.

A reordered value comes to the same text in the same way (`flatten_reordered`), since maps are
sorted by the texts of their keys.  It is read as the same kind of thing, and the parts of what it
is read as are reordered in turn (`reading_reordered`), since at most one entry is the name of a
map.
-/

namespace MarkupSpec

open Build

/-- No two keys of a map have the same text, and no two declare the same qualifier. -/
structure TellsApart (describe : NodeId → String) (entries : Entries) : Prop where
  texts : (entries.map fun entry => entry.1.plain describe).Nodup
  declared : (entries.filterMap fun entry => entry.1.text?.bind declaredQualifier?).Nodup

/-- The second value is the first one with the entries of maps in another order. -/
inductive Reordered (describe : NodeId → String) : Value → Value → Prop
  | same (value : Value) : Reordered describe value value
  | list {items items' : List Value} : List.Forall₂ (Reordered describe) items items' →
      Reordered describe (.list items) (.list items')
  | tuple {items items' : List Value} : List.Forall₂ (Reordered describe) items items' →
      Reordered describe (.tuple items) (.tuple items')
  /-- The values are reordered first, and then the entries are. -/
  | map {entries between entries' : Entries} : TellsApart describe entries →
      List.Forall₂ (EntryGoes (Reordered describe)) entries between → between.Perm entries' →
      Reordered describe (.map entries) (.map entries')

section Shapes

variable {describe : NodeId → String} {value value' : Value} {entries between entries' : Entries}

theorem Reordered.refl_all (items : List Value) :
    List.Forall₂ (Reordered describe) items items :=
  List.forall₂_same.mpr fun item _ => .same item

theorem isEmpty_of_forall₂ {α β : Type} {R : α → β → Prop} {items : List α} {items' : List β}
    (all : List.Forall₂ R items items') : items'.isEmpty = items.isEmpty := by
  cases all <;> rfl

/-- A map is as long as it was. -/
theorem isEmpty_of_reordered (goes : List.Forall₂ (EntryGoes (Reordered describe)) entries between)
    (perm : between.Perm entries') : entries'.isEmpty = entries.isEmpty := by
  rw [← perm.isEmpty_eq, isEmpty_of_forall₂ goes]

theorem Reordered.isAbsent (reordered : Reordered describe value value') :
    value'.isAbsent = value.isAbsent := by
  cases reordered with
  | same => rfl
  | list all | tuple all => exact isEmpty_of_forall₂ all
  | map _ goes perm => exact isEmpty_of_reordered goes perm

theorem Reordered.isCountable (reordered : Reordered describe value value') :
    value'.isCountable = value.isCountable := by
  cases reordered <;> rfl

theorem Reordered.isNull (reordered : Reordered describe value value') :
    value'.isNull = value.isNull := by
  cases reordered <;> rfl

theorem Reordered.isSequence (reordered : Reordered describe value value') :
    value'.isSequence = value.isSequence := by
  cases reordered <;> rfl

theorem Reordered.text? (reordered : Reordered describe value value') :
    value'.text? = value.text? := by
  cases reordered <;> rfl

end Shapes

/-! ## Flattening -/

/-- Steps are compared from one world, which has a forest and keeps it. -/
def Forest.still (forest : Forest) : Likeness Failure World where
  excuse := fun _ => False
  causes := Eq
  states := fun world world' => world = world' ∧ world.forest = forest

section Flattening

variable {α : Type} {forest origin : Forest} {first second : Build α} {world : World}

/-- Steps that are alike from one world have the same outcome. -/
theorem Echo.outcome (echo : Echo forest.still Eq first second) (isForest : world.forest = forest) :
    second world = first world := by
  have echoes := echo world world ⟨rfl, isForest⟩
  generalize first world = outcome at echoes ⊢
  generalize second world = outcome' at echoes ⊢
  cases echoes with
  | ok same state => rw [show _ = _ from same, state.1]
  | failed same state => rw [show _ = _ from same, state.1]
  | excused excuse => exact excuse.elim

theorem echo_still (reads : ReadsOnly first) : Echo forest.still Eq first first := by
  rintro world _ ⟨rfl, isForest⟩
  have same := reads world
  unfold Ensures at same
  cases run : first world with
  | ok result after =>
      rw [run] at same
      exact .ok rfl ⟨rfl, same.trans isForest⟩
  | error cause after =>
      rw [run] at same
      exact .failed rfl ⟨rfl, same.trans isForest⟩

theorem echo_still_describe {next next' : (NodeId → String) → Build α}
    (onNext : Echo forest.still Eq (next forest.describe) (next' forest.describe)) :
    Echo forest.still Eq (describe >>= next) (describe >>= next') := by
  rintro world _ ⟨rfl, rfl⟩
  exact onNext world world ⟨rfl, rfl⟩

/-- The nodes of a forest that was there before are described as they were. -/
def Forest.Redescribes (origin forest : Forest) : Prop :=
  ∀ id < origin.size, forest.describe id = origin.describe id

theorem plain_of_isAtHand (redescribes : origin.Redescribes forest) {value : Value}
    (atHand : value.isAtHand origin) :
    value.plain forest.describe = value.plain origin.describe :=
  Value.plain_of_quoted (Value.quoted_of_isStill
    (fun id inside => redescribes id (of_decide_eq_true inside)) value atHand)

/-- The entries of a map are sorted in the same way, whatever their order is. -/
theorem sortedEntries_reordered {entries between entries' : Entries}
    {R : Value → Value → Prop} {describe : NodeId → String}
    (texts : (entries.map fun entry => entry.1.plain describe).Nodup)
    (goes : List.Forall₂ (EntryGoes R) entries between) (perm : between.Perm entries') :
    List.Forall₂ (EntryGoes R) (sortedEntries describe entries)
      (sortedEntries describe entries') := by
  have keyed : List.Forall₂ (EntryGoes R)
      (entries.map fun entry => (entry.1.plain describe, entry.2))
      (between.map fun entry => (entry.1.plain describe, entry.2)) := by
    rw [List.forall₂_map_left_iff, List.forall₂_map_right_iff]
    exact goes.imp fun _ _ goes => .of_key (congrArg (Value.plain describe) goes.key) goes.value
  have keys : between.map (fun entry => entry.1.plain describe) =
      entries.map fun entry => entry.1.plain describe := by
    clear perm texts keyed
    induction goes with
    | nil => rfl
    | cons first _ ih => rw [List.map_cons, List.map_cons, first.key, ih]
  rw [sortedEntries, sortedEntries, sortByText_of_perm (perm.map _)
    (by rw [List.map_map]; exact keys ▸ texts)]
  exact forall₂_sortByText (fun _ _ goes => goes.key) keyed

/-- A reordered value comes to the same text in the same way. -/
theorem flattenWithin_reordered (redescribes : origin.Redescribes forest)
    (arguments : List Value) : ∀ (depth : Nat) (value value' : Value), value.isAtHand origin →
      Reordered origin.describe value value' →
        Echo forest.still Eq (flattenWithin (pure arguments) depth value)
          (flattenWithin (pure arguments) depth value')
  | 0, _, _, _, _ => Echo.throw rfl
  | depth + 1, value, value', atHand, reordered => by
      have each (value value' : Value)
          (goes : value.isAtHand origin ∧ Reordered origin.describe value value') :=
        flattenWithin_reordered redescribes arguments depth value value' goes.1 goes.2
      have absents : absent value' = absent value := by
        unfold absent
        rw [reordered.isAbsent, reordered.isCountable]
      cases reordered with
      | same => exact echo_still (readsOnly_flattenWithin (readsOnly_pure _) _ _)
      | list all | tuple all =>
          have goes := (List.forall₂_and_left _ _).mpr ⟨Value.areStill_iff.mp atHand, all⟩
          unfold flattenWithin
          rw [absents]
          refine (echo_still (readsOnly_absent _)).bind_same fun isAbsent => ?_
          split
          · exact Echo.pure rfl
          · exact (echo_words (goes.imp each)).bind_same fun _ => Echo.pure rfl
      | @map entries between entries' apart goes perm =>
          have areAtHand := Value.entriesStill_iff.mp atHand
          have texts : (entries.map fun entry => entry.1.plain forest.describe).Nodup := by
            rw [List.map_congr_left fun entry among =>
              plain_of_isAtHand redescribes (areAtHand entry among).1]
            exact apart.texts
          have known : List.Forall₂ (EntryGoes fun value value' =>
              value.isAtHand origin ∧ Reordered origin.describe value value') entries between :=
            ((List.forall₂_and_left _ _).mpr ⟨areAtHand, goes⟩).imp fun _ _ goes =>
              .of_key goes.2.key ⟨goes.1.2, goes.2.value⟩
          unfold flattenWithin
          rw [absents]
          refine (echo_still (readsOnly_absent _)).bind_same fun isAbsent => ?_
          split
          · exact Echo.pure rfl
          · refine echo_still_describe ?_
            have sorted := sortedEntries_reordered texts known perm
            exact (echo_entryWords (sorted.imp fun _ _ goes => goes.imp each)).bind_same
              fun _ => Echo.pure rfl

theorem flatten_reordered (redescribes : origin.Redescribes forest) (arguments : List Value)
    {value value' : Value} (atHand : value.isAtHand origin)
    (reordered : Reordered origin.describe value value') (isForest : world.forest = forest) :
    flatten arguments value' world = flatten arguments value world :=
  (flattenWithin_reordered redescribes arguments nestingBudget value value' atHand
    reordered).outcome isForest

end Flattening

/-! ## Members and keys -/

section Members

variable {α : Type} {describe : NodeId → String} {items items' : List Value}
  {entries between : List (α × Value)} {R : Value → Value → Prop}

/-- There is a reordered member at the same place, or there is none. -/
theorem reordered_getElem (all : List.Forall₂ (Reordered describe) items items') (index : Nat) :
    Reordered describe (items[index]?.getD .null) (items'[index]?.getD .null) := by
  induction all generalizing index with
  | nil => exact .same _
  | cons first _ ih =>
      cases index with
      | zero => exact first
      | succ index => exact ih index

theorem forall₂_tail {S : Value → Value → Prop} (all : List.Forall₂ S items items') :
    List.Forall₂ S items.tail items'.tail := by
  cases all with
  | nil => exact .nil
  | cons _ rest => exact rest

theorem map_fst_of_forall₂ (goes : List.Forall₂ (EntryGoes R) entries between) :
    between.map Prod.fst = entries.map Prod.fst := by
  induction goes with
  | nil => rfl
  | cons first _ ih => rw [List.map_cons, List.map_cons, first.key, ih]

end Members

/-! ## What keys select -/

/-- The entries whose keys stand for something, by that. -/
def selected {α β : Type} (select : α → Option β) (entries : List (α × Value)) :
    List (β × Value) :=
  entries.filterMap fun entry => (select entry.1).map fun key => (key, entry.2)

section Selected

variable {α β : Type} {R : Value → Value → Prop} {entries between : List (α × Value)}

theorem forall₂_selected (select : α → Option β)
    (goes : List.Forall₂ (EntryGoes R) entries between) :
    List.Forall₂ (EntryGoes R) (selected select entries) (selected select between) := by
  induction goes with
  | nil => exact .nil
  | @cons entry entry' _ _ first _ ih =>
      unfold selected at ih ⊢
      rw [List.filterMap_cons, List.filterMap_cons, first.key]
      cases select entry.1 with
      | none => exact ih
      | some key => exact .cons (.entry first.value) ih

theorem filterMap_sublist {γ : Type} {select select' : α → Option γ}
    (less : ∀ key found, select key = some found → select' key = some found) :
    ∀ keys : List α, (keys.filterMap select).Sublist (keys.filterMap select')
  | [] => .slnil
  | key :: rest => by
      have later := filterMap_sublist less rest
      cases found : select key with
      | some found' =>
          rw [List.filterMap_cons_some found, List.filterMap_cons_some (less key found' found)]
          exact later.cons_cons found'
      | none =>
          rw [List.filterMap_cons_none found, List.filterMap_cons]
          split
          · exact later
          · exact later.cons _

end Selected

/-- The key of an attribute. -/
def attributeKey? (marker : Marker) (key : Value) : Option String :=
  key.text?.filter fun content => (marker.unmark? content).isNone

theorem eq_text_of_attributeKey? {marker : Marker} {key : Value} {content : String}
    (isKey : attributeKey? marker key = some content) : key = .text content := by
  obtain ⟨isText, -⟩ := Option.filter_eq_some_iff.mp isKey
  cases key <;> cases isText
  rfl

theorem attributesOf_eq_selected (marker : Marker) (entries : Entries) :
    attributesOf marker entries = selected (attributeKey? marker) entries := by
  unfold attributesOf selected
  congr 1
  funext entry
  obtain ⟨key, value⟩ := entry
  cases key with
  | text content =>
      dsimp only [attributeKey?, Value.text?]
      cases unmarks : marker.unmark? content <;> simp [Option.filter_some, unmarks]
  | _ => rfl

/-- A key that holds children. -/
def compactKey? (key : Value) : Option Value := if key.isTuple || key.isNode then some key else none

theorem compactEntries_eq_selected (entries : Entries) :
    compactEntries entries = selected compactKey? entries := by
  unfold compactEntries selected
  rw [← List.filterMap_eq_filter]
  congr 1
  funext entry
  unfold compactKey? Option.guard
  split <;> simp_all

theorem markedEntries_eq_selected (marker : Marker) (entries : Entries) :
    markedEntries marker entries = selected (markedWord? marker) entries := rfl

/-- Where no key is there twice, the entry of null is the one with that key. -/
theorem lookup_null {entries : Entries} (distinct : (entries.map Prod.fst).Nodup) {value : Value} :
    Value.lookup .null entries = some value ↔ (.null, value) ∈ entries := by
  induction entries with
  | nil => simp [Value.lookup]
  | cons entry rest ih =>
      obtain ⟨other, there⟩ := entry
      rw [List.map_cons, List.nodup_cons] at distinct
      rw [Value.lookup, List.mem_cons, Prod.mk.injEq]
      by_cases same : Value.sameKey other .null = true
      · obtain rfl := Value.sameKey_null_right.mp same
        have absent : (Value.null, value) ∉ rest := fun among =>
          distinct.1 (List.mem_map.mpr ⟨(.null, value), among, rfl⟩)
        simp [same, absent, eq_comm]
      · have differ : Value.null ≠ other := fun isNull => same (by rw [← isNull]; rfl)
        rw [if_neg same, ih distinct.2]
        simp [differ]

/-! ## Attributes -/

/-- Attributes in another order, with reordered values.  No two have the same key, and no two
declare the same qualifier. -/
structure ReorderedAttributes (describe : NodeId → String)
    (attributes attributes' : RawAttributes) : Prop where
  unambiguous : Unambiguous attributes
  goes : ∃ between, List.Forall₂ (EntryGoes (Reordered describe)) attributes between ∧
    between.Perm attributes'

namespace ReorderedAttributes

variable {describe : NodeId → String} {attributes attributes' : RawAttributes}
  (reordered : ReorderedAttributes describe attributes attributes')

include reordered

/-- Attributes may as well be put into the other order first. -/
theorem swap : ∃ between, attributes.Perm between ∧
    List.Forall₂ (EntryGoes (Reordered describe)) between attributes' := by
  obtain ⟨between, goes, perm⟩ := reordered.goes
  obtain ⟨middle, goes', perm'⟩ := List.perm_comp_forall₂ perm.symm (List.Forall₂.flip goes)
  exact ⟨middle, perm'.symm, goes'.flip⟩

/-- Attributes that are sorted by their keys are in the same order. -/
theorem sorted : List.Forall₂ (EntryGoes (Reordered describe))
    (Text.sortByText Prod.fst attributes) (Text.sortByText Prod.fst attributes') := by
  obtain ⟨between, goes, perm⟩ := reordered.goes
  rw [sortByText_of_perm perm (map_fst_of_forall₂ goes ▸ reordered.unambiguous.keys)]
  exact forall₂_sortByText (fun _ _ goes => goes.key) goes

/-- A key stands for a reordered value, or for nothing. -/
theorem lookup (key : String) :
    Reordered describe ((attributes.lookup key).getD .null)
      ((attributes'.lookup key).getD .null) := by
  obtain ⟨between, goes, perm⟩ := reordered.goes
  rw [lookup_of_perm perm (map_fst_of_forall₂ goes ▸ reordered.unambiguous.keys)]
  clear perm reordered
  induction goes with
  | nil => exact .same _
  | cons first _ ih =>
      cases first with
      | entry value =>
          rw [List.lookup_cons, List.lookup_cons]
          split
          · exact value
          · exact ih

end ReorderedAttributes

/-- Attributes with reordered values come to the same texts in the same way. -/
theorem flattenAttributes_reordered {forest origin : Forest} {world : World}
    (redescribes : origin.Redescribes forest) (arguments : List Value)
    {attributes attributes' : RawAttributes}
    (areAtHand : ∀ entry ∈ attributes, entry.2.isAtHand origin)
    (goes : List.Forall₂ (EntryGoes (Reordered origin.describe)) attributes attributes')
    (isForest : world.forest = forest) :
    flattenAttributes pure arguments attributes' world =
      flattenAttributes pure arguments attributes world := by
  suffices echo : Echo forest.still Eq (flattenAttributes pure arguments attributes)
      (flattenAttributes pure arguments attributes') from echo.outcome isForest
  induction goes with
  | nil => exact Echo.pure rfl
  | cons first _ ih =>
      rw [List.forall_mem_cons] at areAtHand
      have rest := ih areAtHand.2
      cases first with
      | entry reordered =>
          have flattens := flattenWithin_reordered redescribes arguments nestingBudget _ _
            areAtHand.1 reordered
          unfold flattenAttributes
          refine flattens.bind_same fun text => ?_
          cases text with
          | none => exact rest
          | some text =>
              exact Echo.bind_same (Echo.pure rfl) fun key => rest.bind_same fun _ => Echo.pure rfl

/-! ## Reading -/

section Reading

variable {describe : NodeId → String} {marker : Marker} {entries between entries' : Entries}

theorem TellsApart.keys (apart : TellsApart describe entries) :
    (entries.map Prod.fst).Nodup := by
  have texts := apart.texts
  rw [show (fun entry : Value × Value => entry.1.plain describe) =
    Value.plain describe ∘ Prod.fst from rfl, ← List.map_map] at texts
  exact List.Nodup.of_map _ texts

/-- A map that tells its entries apart has unambiguous attributes. -/
theorem TellsApart.unambiguous (apart : TellsApart describe entries) (marker : Marker) :
    Unambiguous (attributesOf marker entries) := by
  rw [attributesOf_eq_selected]
  constructor
  · have keys : (selected (attributeKey? marker) entries).map Prod.fst =
        (entries.map Prod.fst).filterMap (attributeKey? marker) := by
      unfold selected
      rw [List.map_filterMap, List.filterMap_map]
      congr 1
      funext entry
      cases select : attributeKey? marker entry.1 <;> simp [select]
    rw [keys]
    refine apart.keys.filterMap fun first second key isFirst isSecond => ?_
    rw [eq_text_of_attributeKey? isFirst, eq_text_of_attributeKey? isSecond]
  · unfold selected
    rw [List.filterMap_filterMap]
    refine (filterMap_sublist (fun entry qualifier found => ?_) entries).nodup apart.declared
    cases isKey : attributeKey? marker entry.1 with
    | none => simp [isKey] at found
    | some content =>
        rw [isKey] at found
        rw [eq_text_of_attributeKey? isKey]
        exact found

theorem ReorderedAttributes.of_attributes (apart : TellsApart describe entries)
    (goes : List.Forall₂ (EntryGoes (Reordered describe)) entries between)
    (perm : between.Perm entries') (marker : Marker) :
    ReorderedAttributes describe (attributesOf marker entries) (attributesOf marker entries') where
  unambiguous := apart.unambiguous marker
  goes := by
    rw [attributesOf_eq_selected, attributesOf_eq_selected]
    exact ⟨_, forall₂_selected _ goes, perm.filterMap _⟩

/-- Two name slots of the same form, with values that go together. -/
inductive NameSlot.Goes (R : Value → Value → Prop) : NameSlot → NameSlot → Prop
  | explicit {slot slot' : Value} : R slot slot' → Goes R (.explicit slot) (.explicit slot')
  | compact (key : Value) {name name' : Value} : R name name' →
      Goes R (.compact key name) (.compact key name')
  | marked (word : String) {value value' : Value} : R value value' →
      Goes R (.marked word value) (.marked word value')
  | missing : Goes R .missing .missing

theorem lookup_goes {R : Value → Value → Prop} (key : Value)
    (goes : List.Forall₂ (EntryGoes R) entries between) :
    Option.Rel R (Value.lookup key entries) (Value.lookup key between) := by
  induction goes with
  | nil => exact .none
  | cons first _ ih =>
      cases first with
      | entry value =>
          unfold Value.lookup
          split
          · exact .some value
          · exact ih

/-- A map has the entry of null wherever it is. -/
theorem explicitSlot?_reordered (apart : TellsApart describe entries)
    (goes : List.Forall₂ (EntryGoes (Reordered describe)) entries between)
    (perm : between.Perm entries') :
    Option.Rel (Reordered describe) (explicitSlot? entries) (explicitSlot? entries') := by
  have distinct : (between.map Prod.fst).Nodup := map_fst_of_forall₂ goes ▸ apart.keys
  have distinct' : (entries'.map Prod.fst).Nodup := (perm.map Prod.fst).nodup_iff.mp distinct
  have same : Value.lookup .null entries' = Value.lookup .null between := by
    refine Option.ext fun value => ?_
    rw [lookup_null distinct, lookup_null distinct', perm.mem_iff]
  have looked := lookup_goes .null goes
  unfold explicitSlot?
  rw [same]
  generalize Value.lookup .null entries = found at looked ⊢
  generalize Value.lookup .null between = found' at looked ⊢
  cases looked with
  | none => exact .none
  | some slot =>
      rw [Option.filter_some, Option.filter_some, slot.isAbsent]
      split
      · exact .some slot
      · exact .none

theorem eq_nil_of_goes {α : Type} {R : Value → Value → Prop} {between entries' : List (α × Value)}
    (goes : List.Forall₂ (EntryGoes R) [] between) (perm : between.Perm entries') :
    entries' = [] := by
  cases goes
  exact List.nil_perm.mp perm

theorem eq_singleton_of_goes {α : Type} {R : Value → Value → Prop} {key : α} {value : Value}
    {between entries' : List (α × Value)}
    (goes : List.Forall₂ (EntryGoes R) [(key, value)] between) (perm : between.Perm entries') :
    ∃ value', entries' = [(key, value')] ∧ R value value' := by
  cases goes with
  | cons first rest =>
      cases first with
      | entry holds =>
          cases rest
          exact ⟨_, (List.singleton_perm.mp perm).symm, holds⟩

/-- A map has its name in the same place. -/
theorem nameSlot_reordered (apart : TellsApart describe entries)
    (goes : List.Forall₂ (EntryGoes (Reordered describe)) entries between)
    (perm : between.Perm entries')
    (unique : ∀ form keys, nameSlot marker entries ≠ .ambiguous form keys) :
    NameSlot.Goes (Reordered describe) (nameSlot marker entries) (nameSlot marker entries') := by
  have explicit := explicitSlot?_reordered apart goes perm
  have compact := forall₂_selected compactKey? goes
  have compact' : (selected compactKey? between).Perm (compactEntries entries') := by
    rw [compactEntries_eq_selected]
    exact perm.filterMap _
  have marked := forall₂_selected (markedWord? marker) goes
  have marked' : (selected (markedWord? marker) between).Perm (markedEntries marker entries') :=
    perm.filterMap _
  rw [← compactEntries_eq_selected] at compact
  rw [← markedEntries_eq_selected] at marked
  unfold nameSlot at unique ⊢
  generalize explicitSlot? entries = slot at explicit unique ⊢
  generalize explicitSlot? entries' = slot' at explicit ⊢
  generalize compactEntries entries = keyed at compact unique ⊢
  generalize markedEntries marker entries = worded at marked unique ⊢
  cases explicit with
  | some slot => exact .explicit slot
  | none =>
      cases keyed with
      | nil =>
          rw [eq_nil_of_goes compact compact']
          cases worded with
          | nil =>
              rw [eq_nil_of_goes marked marked']
              exact .missing
          | cons first others =>
              cases others with
              | nil =>
                  obtain ⟨value', same, reordered⟩ := eq_singleton_of_goes marked marked'
                  rw [same]
                  exact .marked first.1 reordered
              | cons => exact (unique _ _ rfl).elim
      | cons first others =>
          cases others with
          | nil =>
              obtain ⟨name', same, reordered⟩ := eq_singleton_of_goes compact compact'
              rw [same]
              exact .compact first.1 reordered
          | cons => exact (unique _ _ rfl).elim

/-- A reordered value holds reordered members. -/
theorem held_reordered {value value' : Value} {items : List Value}
    (reordered : Reordered describe value value') (held : value.held? = some items) :
    ∃ items', value'.held? = some items' ∧ List.Forall₂ (Reordered describe) items items' := by
  cases reordered with
  | same => exact ⟨items, held, Reordered.refl_all items⟩
  | list all | tuple all =>
      cases held
      exact ⟨_, rfl, all⟩
  | map => cases held

theorem childrenIn_reordered {value value' : Value} {children : List Value}
    (reordered : Reordered describe value value') (there : childrenIn? value = some children) :
    ∃ children', childrenIn? value' = some children' ∧
      List.Forall₂ (Reordered describe) children children' := by
  unfold childrenIn? at there ⊢
  rw [reordered.isNull, reordered.isSequence]
  split at there
  · rename_i isNull
    rw [if_pos isNull]
    cases there
    exact ⟨[], rfl, .nil⟩
  · rename_i notNull
    rw [if_neg notNull]
    split at there
    · rename_i isSequence
      rw [if_pos isSequence]
      exact held_reordered reordered there
    · rename_i noSequence
      rw [if_neg noSequence]
      cases there
      exact ⟨[value'], rfl, .cons reordered .nil⟩

/-- A map has its name and its children wherever they are. -/
theorem namedChildren_reordered {name : Value} {children : List Value}
    (apart : TellsApart describe entries)
    (goes : List.Forall₂ (EntryGoes (Reordered describe)) entries between)
    (perm : between.Perm entries')
    (there : namedChildren? marker entries = some (name, children)) :
    ∃ name' children', namedChildren? marker entries' = some (name', children') ∧
      Reordered describe name name' ∧ List.Forall₂ (Reordered describe) children children' := by
  have unique : ∀ form keys, nameSlot marker entries ≠ .ambiguous form keys := by
    intro form keys slots
    simp only [namedChildren?, slots] at there
    cases there
  have slots := nameSlot_reordered apart goes perm unique
  unfold namedChildren? at there ⊢
  generalize nameSlot marker entries = slot at slots there
  generalize nameSlot marker entries' = slot' at slots ⊢
  cases slots with
  | explicit slot =>
      dsimp only at there ⊢
      rw [slot.isSequence]
      split at there
      · rename_i isSequence
        rw [if_pos isSequence]
        obtain ⟨items, held, same⟩ := Option.map_eq_some_iff.mp there
        obtain ⟨items', held', all⟩ := held_reordered slot held
        rw [held']
        cases same
        cases all with
        | nil => exact ⟨_, _, rfl, .same _, .nil⟩
        | cons first rest => exact ⟨_, _, rfl, first, rest⟩
      · rename_i noSequence
        rw [if_neg noSequence]
        cases there
        exact ⟨_, _, rfl, slot, .nil⟩
  | compact key name =>
      cases there
      exact ⟨_, _, rfl, name, Reordered.refl_all _⟩
  | marked word value =>
      dsimp only at there ⊢
      split at there
      · rename_i isElement
        rw [if_pos isElement]
        cases there
        exact ⟨_, _, rfl, value, .nil⟩
      · rename_i noElement
        rw [if_neg noElement]
        obtain ⟨items, inside, same⟩ := Option.map_eq_some_iff.mp there
        obtain ⟨items', inside', all⟩ := childrenIn_reordered value inside
        rw [inside']
        cases same
        exact ⟨_, _, rfl, .same _, all⟩
  | missing =>
      cases there
      exact ⟨_, _, rfl, .same _, .nil⟩

/-- What is read of the second value is what is read of the first one, with reordered parts. -/
inductive Spec.Reordered (describe : NodeId → String) : Spec → Spec → Prop
  | sequence {items items' : List Value} :
      List.Forall₂ (MarkupSpec.Reordered describe) items items' →
      Reordered describe (.sequence items) (.sequence items')
  | element {name name' : Value} {attributes attributes' : RawAttributes}
      {children children' : List Value} : MarkupSpec.Reordered describe name name' →
      ReorderedAttributes describe attributes attributes' →
      List.Forall₂ (MarkupSpec.Reordered describe) children children' →
      Reordered describe (.element name attributes children) (.element name' attributes' children')
  | comment {children children' : List Value} :
      List.Forall₂ (MarkupSpec.Reordered describe) children children' →
      Reordered describe (.comment children) (.comment children')
  | cdata {children children' : List Value} :
      List.Forall₂ (MarkupSpec.Reordered describe) children children' →
      Reordered describe (.cdata children) (.cdata children')
  | instruction {attributes attributes' : RawAttributes} {children children' : List Value} :
      List.Forall₂ (MarkupSpec.Reordered describe) children children' →
      ReorderedAttributes describe attributes attributes' →
      Reordered describe (.instruction children attributes) (.instruction children' attributes')
  | doctype {attributes attributes' : RawAttributes} {children children' : List Value} :
      List.Forall₂ (MarkupSpec.Reordered describe) children children' →
      ReorderedAttributes describe attributes attributes' →
      Reordered describe (.doctype children attributes) (.doctype children' attributes')

theorem Spec.reordered_ofNamed {name name' : Value} {attributes attributes' : RawAttributes}
    {children children' : List Value} (names : MarkupSpec.Reordered describe name name')
    (areChildren : List.Forall₂ (MarkupSpec.Reordered describe) children children')
    (areAttributes : ReorderedAttributes describe attributes attributes') :
    Spec.Reordered describe (.ofNamed marker name children attributes)
      (.ofNamed marker name' children' attributes') := by
  have kinds : specialKind? marker name' = specialKind? marker name := by
    rw [specialKind?, specialKind?, markedWord?, markedWord?, names.text?]
  unfold Spec.ofNamed
  rw [kinds]
  split
  · exact .comment areChildren
  · exact .cdata areChildren
  · exact .instruction areChildren areAttributes
  · exact .doctype areChildren areAttributes
  · exact .element names areAttributes areChildren

/-- A value that is reordered is the same value, or is read as the same with reordered parts. -/
theorem reading_reordered {value value' : Value} {spec : Spec}
    (reordered : Reordered describe value value') (reads : value.reading? marker = some spec) :
    value' = value ∨
      ∃ spec', value'.reading? marker = some spec' ∧ Spec.Reordered describe spec spec' := by
  have absents := reordered.isAbsent
  unfold Value.reading? at reads ⊢
  rw [absents]
  split at reads
  · cases reads
  rename_i isThere
  rw [if_neg isThere]
  cases reordered with
  | same => exact .inl rfl
  | list all | tuple all =>
      cases reads
      exact .inr ⟨_, rfl, .sequence all⟩
  | map apart goes perm =>
      obtain ⟨⟨name, children⟩, there, rfl⟩ := Option.map_eq_some_iff.mp reads
      obtain ⟨name', children', there', names, areChildren⟩ :=
        namedChildren_reordered apart goes perm there
      refine .inr ⟨_, by simp only [there']; rfl, ?_⟩
      exact Spec.reordered_ofNamed names areChildren (.of_attributes apart goes perm marker)

end Reading

end MarkupSpec
