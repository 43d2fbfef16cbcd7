import MarkupSpec.Forest.Scope
import MarkupSpec.Spec.Parse

/-!
# What the parts of values inherit

Whatever is taken out of values that have a property has it too: the values of keys, what
stands in the name slot of a map, the attributes of a map.

A property is *inherited* if moreover a list, a tuple, a set or a map has it exactly when all
that stands in it has it, and every value without parts has it in any case, apart from nodes,
streams and functions (`Inherited`).  Then what is put together from values with the property
has it again: the members of ranges, and the parts of what a value was read as.
-/

namespace MarkupSpec

/-- Is the value without parts, and neither a node nor a stream nor a function? -/
def Value.isBare : Value → Bool
  | .list _ | .tuple _ | .set .. | .map _ | .stream _ | .function _ | .node _ => false
  | _ => true

/-- The templates that a template is put together from. -/
def Template.parts : Template → List Template
  | .list items | .tuple items | .set _ items | .stream items | .concat items => items
  | .map entries => entries.flatMap fun entry => [entry.1, entry.2]
  | .function _ body => [body]
  | _ => []

/-- A property that values have by their parts. -/
structure Inherited (P : Value → Prop) : Prop where
  list : ∀ {items}, P (.list items) ↔ ∀ item ∈ items, P item
  tuple : ∀ {items}, P (.tuple items) ↔ ∀ item ∈ items, P item
  set : ∀ {isFrozen items}, P (.set isFrozen items) ↔ ∀ item ∈ items, P item
  map : ∀ {entries : Entries}, P (.map entries) ↔ ∀ entry ∈ entries, P entry.1 ∧ P entry.2
  bare : ∀ {value}, value.isBare → P value

/-- Two properties that are inherited, where streams, functions and nodes with the first one have
the second one. -/
structure Inherited.Brings (P Q : Value → Prop) : Prop where
  first : Inherited P
  second : Inherited Q
  stream : ∀ id, P (.stream id) → Q (.stream id)
  function : ∀ function, P (.function function) → Q (.function function)
  node : ∀ node, P (.node node) → Q (.node node)

namespace Inherited.Brings

variable {P Q : Value → Prop}

mutual

/-- All values with the first property have the second one. -/
theorem value (brings : Brings P Q) : ∀ value, P value → Q value
  | .list items, holds => brings.second.list.mpr (brings.all items (brings.first.list.mp holds))
  | .tuple items, holds => brings.second.tuple.mpr (brings.all items (brings.first.tuple.mp holds))
  | .set _ items, holds => brings.second.set.mpr (brings.all items (brings.first.set.mp holds))
  | .map entries, holds =>
      brings.second.map.mpr (brings.entries entries (brings.first.map.mp holds))
  | .stream id, holds => brings.stream id holds
  | .function function, holds => brings.function function holds
  | .node node, holds => brings.node node holds
  | .null, _ | .bool _, _ | .int _, _ | .float _, _ | .nan _, _ | .text _, _ | .bytes .., _
  | .range .., _ | .thing .., _ => brings.second.bare rfl
termination_by structural value => value

theorem all (brings : Brings P Q) :
    ∀ items : List Value, (∀ item ∈ items, P item) → ∀ item ∈ items, Q item
  | item :: rest, all => by
      rw [List.forall_mem_cons] at all ⊢
      exact ⟨brings.value item all.1, brings.all rest all.2⟩
  | [], _ => List.forall_mem_nil _
termination_by structural items => items

theorem entries (brings : Brings P Q) : ∀ entries : List (Value × Value),
    (∀ entry ∈ entries, P entry.1 ∧ P entry.2) → ∀ entry ∈ entries, Q entry.1 ∧ Q entry.2
  | (key, value) :: rest, all => by
      rw [List.forall_mem_cons] at all ⊢
      exact ⟨⟨brings.value key all.1.1, brings.value value all.1.2⟩, brings.entries rest all.2⟩
  | [], _ => List.forall_mem_nil _
termination_by structural entries => entries

end

end Inherited.Brings

/-- All values have an inherited property that streams, functions and nodes have. -/
theorem Inherited.everywhere {P : Value → Prop} (inherited : Inherited P)
    (stream : ∀ id, P (.stream id)) (function : ∀ function, P (.function function))
    (node : ∀ node, P (.node node)) (value : Value) : P value := by
  have brings : Brings (fun _ => True) P :=
    { first := by constructor <;> simp
      second := inherited
      stream := fun id _ => stream id
      function := fun callee _ => function callee
      node := fun id _ => node id }
  exact brings.value value trivial

/-- The parts of what a value was read as have a property. -/
def Spec.Has (P : Value → Prop) (spec : Spec) : Prop := ∀ part ∈ spec.parts, P part.2

/-- What stands in the name slot of a map has a property. -/
def NameSlot.Has (P : Value → Prop) : NameSlot → Prop
  | .explicit slot => P slot
  | .compact key name => P key ∧ P name
  | .marked _ value => P value
  | .missing | .ambiguous .. => True

/-! ## What is taken out -/

section Taken

variable {P : Value → Prop} {items : List Value} {entries : Entries} {key value member : Value}

theorem has_of_lookup (all : ∀ entry ∈ entries, P entry.1 ∧ P entry.2)
    (found : Value.lookup key entries = some value) : P value := by
  induction entries with
  | nil => cases found
  | cons entry rest ih =>
      rw [List.forall_mem_cons] at all
      unfold Value.lookup at found
      split at found
      · cases found
        exact all.1.2
      · exact ih all.2 found

theorem has_of_mem_put (isKey : P key) (isValue : P value)
    (all : ∀ entry ∈ entries, P entry.1 ∧ P entry.2) :
    ∀ entry ∈ Value.put key value entries, P entry.1 ∧ P entry.2 := by
  induction entries with
  | nil => simp [Value.put, isKey, isValue]
  | cons entry rest ih =>
      rw [List.forall_mem_cons] at all
      unfold Value.put
      split
      · exact List.forall_mem_cons.mpr ⟨⟨all.1.1, isValue⟩, all.2⟩
      · exact List.forall_mem_cons.mpr ⟨all.1, ih all.2⟩

theorem has_of_mem_insertMember (isMember : P member) (all : ∀ item ∈ items, P item) :
    ∀ item ∈ Value.insertMember member items, P item := by
  induction items with
  | nil => simp [Value.insertMember, isMember]
  | cons item rest ih =>
      rw [List.forall_mem_cons] at all
      unfold Value.insertMember
      split
      · exact List.forall_mem_cons.mpr ⟨isMember, List.forall_mem_cons.mpr all⟩
      · exact List.forall_mem_cons.mpr ⟨all.1, ih all.2⟩

theorem has_of_mem_addMember (isMember : P member) (all : ∀ item ∈ items, P item) :
    ∀ item ∈ Value.addMember member items, P item := by
  unfold Value.addMember
  split
  · exact all
  · exact has_of_mem_insertMember isMember all

theorem has_of_mem_attributesOf {marker : Marker}
    (all : ∀ entry ∈ entries, P entry.1 ∧ P entry.2) :
    ∀ entry ∈ attributesOf marker entries, P entry.2 := by
  intro entry among
  obtain ⟨⟨key, value⟩, isEntry, there⟩ := List.mem_filterMap.mp among
  cases key with
  | text content =>
      dsimp only at there
      split at there
      · cases there
      · cases there
        exact (all _ isEntry).2
  | _ => cases there

theorem has_nameSlot {marker : Marker} (all : ∀ entry ∈ entries, P entry.1 ∧ P entry.2) :
    (nameSlot marker entries).Has P := by
  unfold nameSlot
  split
  · rename_i slot found
    exact has_of_lookup all (Option.filter_eq_some_iff.mp found).1
  · rename_i key name _ found
    have among : (key, name) ∈ compactEntries entries := by simp [found]
    exact all _ (List.mem_filter.mp among).1
  · trivial
  · rename_i word value _ _ found
    have among : (word, value) ∈ markedEntries marker entries := by simp [found]
    obtain ⟨entry, isEntry, there⟩ := List.mem_filterMap.mp among
    obtain ⟨_, -, same⟩ := Option.map_eq_some_iff.mp there
    cases same
    exact (all entry isEntry).2
  · trivial
  · trivial

@[simp]
theorem Spec.has_callable {callee : Function} :
    (Spec.callable callee).Has P ↔ P (.function callee) := by
  simp [Spec.Has, Spec.parts]

@[simp]
theorem Spec.has_existing {node : NodeId} : (Spec.existing node).Has P ↔ P (.node node) := by
  simp [Spec.Has, Spec.parts]

@[simp]
theorem Spec.has_text : (Spec.text value).Has P ↔ P value := by
  simp [Spec.Has, Spec.parts]

end Taken

/-! ## What is put together -/

namespace Inherited

variable {P : Value → Prop} {children : List Value} {entries : RawAttributes}
  {key name member : Value} (inherited : Inherited P)

include inherited

/-- A child that is missing stands for null. -/
theorem of_getElem (all : ∀ child ∈ children, P child) (index : Nat) :
    P (children[index]?.getD .null) := by
  cases there : children[index]? with
  | none => exact inherited.bare rfl
  | some child => exact all child (List.mem_of_getElem? there)

/-- An entry that is missing stands for null. -/
theorem of_lookup (all : ∀ entry ∈ entries, P entry.2) (key : String) :
    P ((entries.lookup key).getD .null) := by
  cases there : entries.lookup key with
  | none => exact inherited.bare rfl
  | some value => exact all (key, value) (mem_of_lookup there)

/-- The members of a range are bare. -/
theorem of_mem_rangeItems {start stop step : Int}
    (among : member ∈ Value.rangeItems start stop step) : P member := by
  obtain ⟨index, -, rfl⟩ := List.mem_map.mp among
  exact inherited.bare rfl

theorem of_mem_compactChildren (isKey : P key) : ∀ child ∈ compactChildren key, P child := by
  unfold compactChildren
  split
  · exact inherited.tuple.mp isKey
  · exact List.forall_mem_singleton.mpr isKey

theorem attributes : P (.map (entries.map fun entry => (.text entry.1, entry.2))) ↔
    ∀ entry ∈ entries, P entry.2 := by
  rw [inherited.map, List.forall_mem_map]
  exact forall₂_congr fun _ _ => and_iff_right (inherited.bare rfl)

theorem sequence : (Spec.sequence children).Has P ↔ ∀ child ∈ children, P child := by
  simp [Spec.Has, Spec.parts, inherited.list]

theorem comment : (Spec.comment children).Has P ↔ ∀ child ∈ children, P child := by
  simp [Spec.Has, Spec.parts, inherited.list]

theorem cdata : (Spec.cdata children).Has P ↔ ∀ child ∈ children, P child := by
  simp [Spec.Has, Spec.parts, inherited.list]

theorem instruction : (Spec.instruction children entries).Has P ↔
    (∀ child ∈ children, P child) ∧ ∀ entry ∈ entries, P entry.2 := by
  rw [← inherited.attributes]
  simp [Spec.Has, Spec.parts, inherited.list]

theorem doctype : (Spec.doctype children entries).Has P ↔
    (∀ child ∈ children, P child) ∧ ∀ entry ∈ entries, P entry.2 := by
  rw [← inherited.attributes]
  simp [Spec.Has, Spec.parts, inherited.list]

theorem element : (Spec.element name entries children).Has P ↔
    P name ∧ (∀ entry ∈ entries, P entry.2) ∧ ∀ child ∈ children, P child := by
  rw [← inherited.attributes]
  simp [Spec.Has, Spec.parts, inherited.list]

/-- A map that is read by its name has a property if its parts do. -/
theorem ofNamed {marker : Marker} (isName : P name) (areChildren : ∀ child ∈ children, P child)
    (areAttributes : ∀ entry ∈ entries, P entry.2) :
    (Spec.ofNamed marker name children entries).Has P := by
  unfold Spec.ofNamed
  split
  · exact inherited.comment.mpr areChildren
  · exact inherited.cdata.mpr areChildren
  · exact inherited.instruction.mpr ⟨areChildren, areAttributes⟩
  · exact inherited.doctype.mpr ⟨areChildren, areAttributes⟩
  · exact inherited.element.mpr ⟨isName, areAttributes, areChildren⟩

end Inherited

end MarkupSpec
