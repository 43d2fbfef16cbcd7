import MarkupSpec.Proofs.Value.InheritedProperties
import MarkupSpec.Value.Printer

/-!
# Values that do not look at the tree

A value goes by known nodes and known streams only, and none of its functions walks from
a node to another one or takes a value by a name that is not known (`Value.isBlind`).
Whatever is taken from such a value, or put together from such values, is of that kind
again.  What it is written as depends on the descriptions of the known nodes only.
-/

namespace MarkupSpec

/-- The nodes, the names and the streams that values may go by. -/
structure Known where
  node : NodeId → Bool
  name : String → Bool
  stream : Nat → Bool

mutual

/-- Does the template take known names only, and does it walk from none of them? -/
def Template.isBlind (known : Known) : Template → Bool
  | .list items | .tuple items | .set _ items | .stream items | .concat items =>
      Template.areBlind known items
  | .map entries => Template.entriesBlind known entries
  | .function _ body => Template.isBlind known body
  | .named name walk => walk.isEmpty && known.name name
  | _ => true
termination_by structural template => template

def Template.areBlind (known : Known) : List Template → Bool
  | [] => true
  | template :: rest => Template.isBlind known template && Template.areBlind known rest
termination_by structural templates => templates

def Template.entriesBlind (known : Known) : List (Template × Template) → Bool
  | [] => true
  | (key, value) :: rest =>
      Template.isBlind known key && Template.isBlind known value &&
        Template.entriesBlind known rest
termination_by structural entries => entries

end

section Templates

variable {known : Known}

theorem Template.areBlind_iff {items : List Template} :
    Template.areBlind known items ↔ ∀ item ∈ items, item.isBlind known := by
  induction items with
  | nil => simp [areBlind]
  | cons item rest ih => simp [areBlind, ih]

theorem Template.entriesBlind_iff {entries : List (Template × Template)} :
    Template.entriesBlind known entries ↔
      ∀ entry ∈ entries, entry.1.isBlind known ∧ entry.2.isBlind known := by
  induction entries with
  | nil => simp [entriesBlind]
  | cons entry rest ih => simp [entriesBlind, ih, and_assoc]

/-- What a blind template is put together from is blind. -/
theorem Template.isBlind_of_mem_parts {template : Template} (blind : template.isBlind known) :
    ∀ part ∈ template.parts, part.isBlind known := by
  cases template with
  | list | tuple | set | stream | concat => exact areBlind_iff.mp blind
  | map entries =>
      intro part among
      obtain ⟨entry, isEntry, there⟩ := List.mem_flatMap.mp among
      have blinds := entriesBlind_iff.mp blind entry isEntry
      simp only [List.mem_cons, List.not_mem_nil, or_false] at there
      rcases there with rfl | rfl
      · exact blinds.1
      · exact blinds.2
  | function => exact List.forall_mem_singleton.mpr blind
  | _ => exact List.forall_mem_nil _

end Templates

namespace Value

mutual

/-- Does the value go by known nodes and streams only, and do its functions not look at the
tree? -/
def isBlind (known : Known) : Value → Bool
  | .list items | .tuple items | .set _ items => areBlind known items
  | .map entries => entriesBlind known entries
  | .function callee => callee.body.isBlind known
  | .node id => known.node id
  | .stream id => known.stream id
  | _ => true
termination_by structural value => value

def areBlind (known : Known) : List Value → Bool
  | [] => true
  | value :: rest => isBlind known value && areBlind known rest
termination_by structural values => values

def entriesBlind (known : Known) : List (Value × Value) → Bool
  | [] => true
  | (key, value) :: rest => isBlind known key && isBlind known value && entriesBlind known rest
termination_by structural entries => entries

end

section Parts

variable {known : Known} {items : List Value} {entries : Entries}

theorem areBlind_iff : areBlind known items ↔ ∀ item ∈ items, item.isBlind known := by
  induction items with
  | nil => simp [areBlind]
  | cons item rest ih => simp [areBlind, ih]

theorem entriesBlind_iff : entriesBlind known entries ↔
    ∀ entry ∈ entries, entry.1.isBlind known ∧ entry.2.isBlind known := by
  induction entries with
  | nil => simp [entriesBlind]
  | cons entry rest ih => simp [entriesBlind, ih, and_assoc]

@[simp]
theorem isBlind_list : (Value.list items).isBlind known ↔ ∀ item ∈ items, item.isBlind known := by
  rw [isBlind, areBlind_iff]

@[simp]
theorem isBlind_tuple :
    (Value.tuple items).isBlind known ↔ ∀ item ∈ items, item.isBlind known := by
  rw [isBlind, areBlind_iff]

@[simp]
theorem isBlind_set {isFrozen : Bool} :
    (Value.set isFrozen items).isBlind known ↔ ∀ item ∈ items, item.isBlind known := by
  rw [isBlind, areBlind_iff]

@[simp]
theorem isBlind_map : (Value.map entries).isBlind known ↔
    ∀ entry ∈ entries, entry.1.isBlind known ∧ entry.2.isBlind known := by
  rw [isBlind, entriesBlind_iff]

end Parts

/-! ## What values are written as -/

section Written

variable {known : Known} {describe describe' : NodeId → String}

mutual

/-- A value is written in the same way if the nodes it goes by are. -/
theorem quoted_congr (same : ∀ id, known.node id → describe' id = describe id) :
    ∀ value : Value, value.isBlind known → value.quoted describe' = value.quoted describe
  | .list items, blind => by
      rw [quoted, quoted, quotedAll_congr same items (isBlind_list.mp blind)]
  | .tuple items, blind => by
      rw [quoted, quoted, quotedAll_congr same items (isBlind_tuple.mp blind)]
  | .set _ members, blind => by
      rw [quoted, quoted, quotedAll_congr same members (isBlind_set.mp blind)]
  | .map entries, blind => by
      rw [quoted, quoted, quotedEntries_congr same entries (isBlind_map.mp blind)]
  | .node id, blind => same id blind
  | .null, _ | .bool _, _ | .int _, _ | .float _, _ | .nan _, _ | .text _, _ | .bytes .., _
  | .range .., _ | .stream _, _ | .thing .., _ | .function _, _ => rfl
termination_by structural value => value

theorem quotedAll_congr (same : ∀ id, known.node id → describe' id = describe id) :
    ∀ items : List Value, (∀ item ∈ items, item.isBlind known) →
      quotedAll describe' items = quotedAll describe items
  | [], _ => rfl
  | item :: rest, blind => by
      rw [List.forall_mem_cons] at blind
      rw [quotedAll, quotedAll, quoted_congr same item blind.1, quotedAll_congr same rest blind.2]
termination_by structural items => items

theorem quotedEntries_congr (same : ∀ id, known.node id → describe' id = describe id) :
    ∀ entries : List (Value × Value),
      (∀ entry ∈ entries, entry.1.isBlind known ∧ entry.2.isBlind known) →
      quotedEntries describe' entries = quotedEntries describe entries
  | [], _ => rfl
  | (key, value) :: rest, blind => by
      rw [List.forall_mem_cons] at blind
      rw [quotedEntries, quotedEntries, quoted_congr same key blind.1.1,
        quoted_congr same value blind.1.2, quotedEntries_congr same rest blind.2]
termination_by structural entries => entries

end

theorem plain_congr (same : ∀ id, known.node id → describe' id = describe id) (value : Value)
    (blind : value.isBlind known) : value.plain describe' = value.plain describe := by
  cases value with
  | text | thing => rfl
  | _ => exact quoted_congr same _ blind

theorem scalarText_congr (same : ∀ id, known.node id → describe' id = describe id) (value : Value)
    (blind : value.isBlind known) : value.scalarText describe' = value.scalarText describe := by
  cases value with
  | bool => rfl
  | _ => exact plain_congr same _ blind

end Written

end Value

/-! ## What values are read as -/

theorem inherited_isBlind (known : Known) : Inherited fun value => value.isBlind known where
  list := Value.isBlind_list
  tuple := Value.isBlind_tuple
  set := Value.isBlind_set
  map := Value.isBlind_map
  bare := by
    intro value isBare
    cases value with
    | list | tuple | set | map | stream | function | node => cases isBare
    | _ => rfl

/-- The parts of what a value was read as do not look at the tree. -/
def Spec.IsBlind (known : Known) (spec : Spec) : Prop :=
  ∀ part ∈ spec.parts, part.2.isBlind known

section Specs

variable {known : Known} {children : List Value} {attributes : RawAttributes} {name : Value}

@[simp]
theorem Spec.isBlind_comment :
    (Spec.comment children).IsBlind known ↔ ∀ child ∈ children, child.isBlind known :=
  (inherited_isBlind known).comment

@[simp]
theorem Spec.isBlind_cdata :
    (Spec.cdata children).IsBlind known ↔ ∀ child ∈ children, child.isBlind known :=
  (inherited_isBlind known).cdata

@[simp]
theorem Spec.isBlind_instruction : (Spec.instruction children attributes).IsBlind known ↔
    (∀ child ∈ children, child.isBlind known) ∧ ∀ entry ∈ attributes, entry.2.isBlind known :=
  (inherited_isBlind known).instruction

@[simp]
theorem Spec.isBlind_doctype : (Spec.doctype children attributes).IsBlind known ↔
    (∀ child ∈ children, child.isBlind known) ∧ ∀ entry ∈ attributes, entry.2.isBlind known :=
  (inherited_isBlind known).doctype

@[simp]
theorem Spec.isBlind_element : (Spec.element name attributes children).IsBlind known ↔
    name.isBlind known ∧ (∀ entry ∈ attributes, entry.2.isBlind known) ∧
      ∀ child ∈ children, child.isBlind known :=
  (inherited_isBlind known).element

@[simp]
theorem Spec.isBlind_sequence {items : List Value} :
    (Spec.sequence items).IsBlind known ↔ ∀ item ∈ items, item.isBlind known :=
  (inherited_isBlind known).sequence

@[simp]
theorem Spec.isBlind_callable {callee : Function} :
    (Spec.callable callee).IsBlind known ↔ callee.body.isBlind known :=
  Spec.has_callable (P := fun value => value.isBlind known)

@[simp]
theorem Spec.isBlind_existing {node : NodeId} :
    (Spec.existing node).IsBlind known ↔ known.node node :=
  Spec.has_existing (P := fun value => value.isBlind known)

@[simp]
theorem Spec.isBlind_text {value : Value} :
    (Spec.text value).IsBlind known ↔ value.isBlind known :=
  Spec.has_text (P := fun value => value.isBlind known)

theorem Spec.quoted_congr {describe describe' : NodeId → String}
    (same : ∀ id, known.node id → describe' id = describe id) {spec : Spec}
    (blind : spec.IsBlind known) : spec.quoted describe' = spec.quoted describe := by
  have parts : spec.parts.map (fun part => part.1 ++ "=" ++ part.2.quoted describe') =
      spec.parts.map fun part => part.1 ++ "=" ++ part.2.quoted describe := by
    refine List.map_congr_left fun part among => ?_
    rw [Value.quoted_congr same part.2 (blind part among)]
  unfold Spec.quoted
  exact congrArg (fun texts => spec.variant ++ "(" ++ Value.commaList texts ++ ")") parts

end Specs

end MarkupSpec
