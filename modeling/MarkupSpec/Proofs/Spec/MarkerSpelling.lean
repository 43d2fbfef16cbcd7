import Mathlib.Data.List.Forall2
import MarkupSpec.Proofs.Build.DepthLimit
import MarkupSpec.Proofs.Build.Outcome

/-!
# The marker is a spelling

The main statement is `compile_respelled`.  A spec that is respelled (`Respelled`) has another
marker in front of the words that the old marker stood before: in the keys of the maps that are read
as specs, and in the names of special kinds.  With settings that have the new marker it is built to
the same forest, or fails for a cause of the same kind.

A spec can be respelled if it has no functions, every marked key begins with the old marker and goes
on with neither of the two, and every name that begins with one of them is the old marker and a word
for a kind.

The relation goes along with how values are read.  What a name slot holds is a name with children,
and these are specs again if the name is one of an element, and left as they are otherwise (`Named`).
Attributes, and what is flattened into a text, stay the same.  What stands under keys that a map is
not read by does not matter (`Entry`).
-/

namespace MarkupSpec

open Build

/-- The same settings with another marker. -/
def Settings.spelled (settings : Settings) (marker : Marker) : Settings := { settings with marker }

/-- The same scene with another marker. -/
def Scene.spelled (scene : Scene) (marker : Marker) : Scene :=
  { scene with settings := scene.settings.spelled marker }

/-- The same build with another marker. -/
def Task.spelled (task : Task) (marker : Marker) : Task :=
  { task with scene := task.scene.spelled marker }

/-! ## The relation -/

/-- Is the value read as it is, and is it no function? -/
def Value.isWhole : Value → Bool
  | .list _ | .tuple _ | .map _ | .stream _ | .function _ => false
  | _ => true

/-- Is it built without building specs inside of it? -/
def Spec.isWhole : Spec → Bool
  | .sequence _ | .callable _ | .element .. => false
  | _ => true

/-- Does a key of a map hold children? -/
def Value.holdsChildren (key : Value) : Bool := key.isTuple || key.isNode

/-- Is a key of a map one that the map is never read by? -/
def Value.isStray (key : Value) : Bool :=
  !(key.isNull || key.text?.isSome || key.holdsChildren)

/-- Does a map have its name under a key that holds children? -/
def NameSlot.isCompact : NameSlot → Bool
  | .compact .. => true
  | _ => false

/-- Does a map have its name under a marked key? -/
def NameSlot.isMarked : NameSlot → Bool
  | .marked .. => true
  | _ => false

/-- One marker takes the place of another one, in a spec and in what streams that are set aside
have left. -/
structure Respelling where
  first : Marker
  second : Marker
  /-- The values that have a name, which stay the same. -/
  names : List (String × Value) := []
  aside : Nat → Option (List Value × List Value) := fun _ => none

namespace Respelling

/-- The terms on which both builds are compared. -/
def terms (change : Respelling) : Terms := { names := change.names, aside := change.aside }

/-- Does a text begin with neither of the markers? -/
def isPlain (change : Respelling) (content : String) : Bool :=
  (change.first.unmark? content).isNone && (change.second.unmark? content).isNone

section Relations

variable (change : Respelling) (R : Value → Value → Prop)

/-- A name with its children.  A word for a kind has the other marker, and the children of the kind
stay the same.  Another name stays the same and begins with no marker, and the children of the
element are respelled. -/
inductive Named : Value → List Value → Value → List Value → Prop
  | special {word children} : (SpecialKind.ofWord? word).isSome → AreClear change.terms children →
      Named (.text (change.first.mark word)) children (.text (change.second.mark word)) children
  | element {name children children'} : name.isClear change.terms →
      (∀ content, name = .text content → change.isPlain content) →
      List.Forall₂ R children children' → Named name children name children'

/-- What the entry of null holds: a name, or a sequence of a name and children. -/
inductive Explicit : Value → Value → Prop
  | bare {name name'} : name.isSequence = false → Named change R name [] name' [] →
      Explicit name name'
  | list {name children name' children'} : Named change R name children name' children' →
      Explicit (.list (name :: children)) (.list (name' :: children'))
  | tuple {name children name' children'} : Named change R name children name' children' →
      Explicit (.tuple (name :: children)) (.tuple (name' :: children'))
  | range {start stop step} : Explicit (.range start stop step) (.range start stop step)
  | stream {id name children name' children'} :
      change.aside id = some (name :: children, name' :: children') →
      Named change R name children name' children' → Explicit (.stream id) (.stream id)
  | spent {id} : change.aside id = some ([], []) → Explicit (.stream id) (.stream id)

/-- A word after the marker with what stands under its key: the name of an element, the content of a
special kind, or the children of an element whose name the word is. -/
inductive Marked : String × Value → String × Value → Prop
  | name {word value value'} : isElementWord word → Named change R value [] value' [] →
      Marked (word, value) (word, value')
  | special {word value} : (SpecialKind.ofWord? word).isSome → value.isClear change.terms →
      Marked (word, value) (word, value)
  | children {word value value'} : isElementWord word = false → SpecialKind.ofWord? word = none →
      R value value' → Marked (word, value) (word, value')

/-- An entry of a map with a name slot.  Of what the map is not read by, only the keys matter. -/
inductive Entry : Value × Value → Value × Value → NameSlot → Prop
  | plain {slot key value} : change.isPlain key → value.isClear change.terms →
      Entry (.text key, value) (.text key, value) slot
  | absent {slot value} : value.isAbsent → Entry (.null, value) (.null, value) slot
  | explicit {slot value value'} : Explicit change R value value' →
      Entry (.null, value) (.null, value') slot
  | compact {slot key key' name name'} : key.holdsChildren → key'.holdsChildren →
      (slot.isCompact → Named change R name (compactChildren key) name' (compactChildren key')) →
      Entry (key, name) (key', name') slot
  | marked {slot word value value'} : change.isPlain word →
      (slot.isMarked → Marked change R (word, value) (word, value')) →
      Entry (.text (change.first.mark word), value) (.text (change.second.mark word), value') slot
  | stray {slot key value value'} : key.isStray → Entry (key, value) (key, value') slot

/-- The entries of a map with a name slot, one by one. -/
inductive Rows : Entries → Entries → NameSlot → Prop
  | nil {slot} : Rows [] [] slot
  | cons {slot entry entry' rest rest'} : Entry change R entry entry' slot → Rows rest rest' slot →
      Rows (entry :: rest) (entry' :: rest') slot

end Relations

/-- Two specs without functions that differ in the marker. -/
inductive Respelled (change : Respelling) : Value → Value → Prop
  | whole {value} : value.isWhole → value.isClear change.terms → Respelled change value value
  | list {items items'} : List.Forall₂ (Respelled change) items items' →
      Respelled change (.list items) (.list items')
  | tuple {items items'} : List.Forall₂ (Respelled change) items items' →
      Respelled change (.tuple items) (.tuple items')
  /-- What the stream has left is respelled. -/
  | stream {id items items'} : change.aside id = some (items, items') →
      List.Forall₂ (Respelled change) items items' → Respelled change (.stream id) (.stream id)
  | map {entries entries'} :
      Rows change (Respelled change) entries entries' (nameSlot change.first entries) →
      Respelled change (.map entries) (.map entries')

/-! ## What a map is read for -/

section Reading

variable {change : Respelling} {R : Value → Value → Prop} {entry entry' : Value × Value}
  {entries entries' : Entries} {slot : NameSlot}

theorem unmark?_of_isPlain {content : String} (isPlain : change.isPlain content) :
    change.first.unmark? content = none ∧ change.second.unmark? content = none := by
  simpa [Respelling.isPlain] using isPlain

/-- A marked word is not the empty text. -/
theorem mark_ne_empty (marker : Marker) (word : String) : marker.mark word ≠ "" := by
  intro isEmpty
  have found := marker.unmark?_mark word
  rw [isEmpty] at found
  cases found

/-! ### One entry -/

theorem text?_of_holdsChildren {key : Value} (holds : key.holdsChildren) : key.text? = none := by
  cases key with
  | text => cases holds
  | _ => rfl

theorem ne_null_of_holdsChildren {key : Value} (holds : key.holdsChildren) : key ≠ .null := by
  rintro rfl
  cases holds

theorem of_isStray {key : Value} (isStray : key.isStray) :
    key ≠ .null ∧ key.text? = none ∧ key.holdsChildren = false := by
  cases key with
  | null | text | tuple | node => cases isStray
  | _ => exact ⟨nofun, rfl, rfl⟩

/-- The attribute that an entry is stays the same. -/
theorem Entry.attributesOf (alike : Entry change R entry entry' slot) :
    MarkupSpec.attributesOf change.second [entry'] = MarkupSpec.attributesOf change.first [entry] ∧
      ∀ found ∈ MarkupSpec.attributesOf change.first [entry], found.2.isClear change.terms := by
  have nothing {marker : Marker} {key value : Value} (noText : key.text? = none) :
      MarkupSpec.attributesOf marker [(key, value)] = [] := by
    cases key with
    | text => cases noText
    | _ => rfl
  have hidden (marker : Marker) (word : String) (value : Value) :
      MarkupSpec.attributesOf marker [(.text (marker.mark word), value)] = [] := by
    simp [MarkupSpec.attributesOf]
  cases alike with
  | plain isPlain isClear =>
      obtain ⟨first, second⟩ := unmark?_of_isPlain isPlain
      simp [MarkupSpec.attributesOf, first, second, isClear]
  | absent | explicit => exact ⟨rfl, List.forall_mem_nil _⟩
  | compact holds holds' =>
      rw [nothing (text?_of_holdsChildren holds), nothing (text?_of_holdsChildren holds')]
      exact ⟨rfl, List.forall_mem_nil _⟩
  | marked =>
      rw [hidden, hidden]
      exact ⟨rfl, List.forall_mem_nil _⟩
  | stray isStray =>
      rw [nothing (of_isStray isStray).2.1, nothing (of_isStray isStray).2.1]
      exact ⟨rfl, List.forall_mem_nil _⟩

/-- An entry whose key holds children has another one of this form. -/
theorem Entry.compactEntries (alike : Entry change R entry entry' slot) :
    List.Forall₂ (fun entry entry' => slot.isCompact →
        Named change R entry.2 (compactChildren entry.1) entry'.2 (compactChildren entry'.1))
      (MarkupSpec.compactEntries [entry]) (MarkupSpec.compactEntries [entry']) := by
  have one {key value : Value} (holds : key.holdsChildren) :
      MarkupSpec.compactEntries [(key, value)] = [(key, value)] :=
    List.filter_cons_of_pos holds
  have nothing {key value : Value} (holds : key.holdsChildren = false) :
      MarkupSpec.compactEntries [(key, value)] = [] :=
    List.filter_cons_of_neg (by simpa [Value.holdsChildren] using holds)
  cases alike with
  | plain | absent | explicit | marked => exact .nil
  | compact holds holds' named =>
      rw [one holds, one holds']
      exact .cons named .nil
  | stray isStray =>
      rw [nothing (of_isStray isStray).2.2, nothing (of_isStray isStray).2.2]
      exact .nil

/-- An entry whose key is marked has another one with the other marker. -/
theorem Entry.markedEntries (alike : Entry change R entry entry' slot) :
    List.Forall₂ (fun entry entry' => slot.isMarked →
        change.isPlain entry.1 ∧ Marked change R entry entry')
      (MarkupSpec.markedEntries change.first [entry])
      (MarkupSpec.markedEntries change.second [entry']) := by
  have nothing {marker : Marker} {key value : Value} (noText : key.text? = none) :
      MarkupSpec.markedEntries marker [(key, value)] = [] := by
    simp [MarkupSpec.markedEntries, markedWord?, noText]
  have one (marker : Marker) (word : String) (value : Value) :
      MarkupSpec.markedEntries marker [(.text (marker.mark word), value)] = [(word, value)] := by
    simp [MarkupSpec.markedEntries, markedWord?, Value.text?]
  cases alike with
  | plain isPlain isClear =>
      obtain ⟨first, second⟩ := unmark?_of_isPlain isPlain
      simp [MarkupSpec.markedEntries, markedWord?, Value.text?, first, second]
  | absent | explicit => exact .nil
  | compact holds holds' =>
      rw [nothing (text?_of_holdsChildren holds), nothing (text?_of_holdsChildren holds')]
      exact .nil
  | marked isPlain isMarked =>
      rw [one, one]
      exact .cons (fun isRead => ⟨isPlain, isMarked isRead⟩) .nil
  | stray isStray =>
      rw [nothing (of_isStray isStray).2.1, nothing (of_isStray isStray).2.1]
      exact .nil

/-- An entry of null has another one, with a value that is absent or says the same. -/
theorem Entry.lookup (alike : Entry change R entry entry' slot) :
    Option.Rel
      (fun value value' => value.isAbsent ∧ value' = value ∨ Explicit change R value value')
      (Value.lookup .null [entry]) (Value.lookup .null [entry']) := by
  have nothing {key value : Value} (other : key ≠ .null) :
      Value.lookup .null [(key, value)] = none := by
    rw [Value.lookup, if_neg (mt Value.sameKey_null_right.mp other), Value.lookup]
  cases alike with
  | plain | marked => exact .none
  | absent isAbsent => exact .some (.inl ⟨isAbsent, rfl⟩)
  | explicit alike => exact .some (.inr alike)
  | compact holds holds' =>
      rw [nothing (ne_null_of_holdsChildren holds), nothing (ne_null_of_holdsChildren holds')]
      exact .none
  | stray isStray =>
      rw [nothing (of_isStray isStray).1, nothing (of_isStray isStray).1]
      exact .none

/-! ### All entries -/

/-- What is read off all entries is put together from what is read off each of them. -/
theorem Rows.assemble {α : Type} {S : α → α → Prop} {f g : Entries → α} {join : α → α → α}
    (onFirst : ∀ entry rest, f (entry :: rest) = join (f [entry]) (f rest))
    (onSecond : ∀ entry rest, g (entry :: rest) = join (g [entry]) (g rest))
    (joined : ∀ {a a' b b'}, S a a' → S b b' → S (join a b) (join a' b')) (none : S (f []) (g []))
    (each : ∀ {entry entry'}, Entry change R entry entry' slot → S (f [entry]) (g [entry']))
    (rows : Rows change R entries entries' slot) : S (f entries) (g entries') := by
  induction rows with
  | nil => exact none
  | cons alike _ ih =>
      rw [onFirst, onSecond]
      exact joined (each alike) (ih each)

theorem Rows.attributesOf (rows : Rows change R entries entries' slot) :
    MarkupSpec.attributesOf change.second entries' = MarkupSpec.attributesOf change.first entries ∧
      ∀ found ∈ MarkupSpec.attributesOf change.first entries, found.2.isClear change.terms := by
  have split (marker : Marker) (entry : Value × Value) (rest : Entries) :
      MarkupSpec.attributesOf marker (entry :: rest) =
        MarkupSpec.attributesOf marker [entry] ++ MarkupSpec.attributesOf marker rest :=
    List.filterMap_append (l := [entry])
  refine rows.assemble
    (S := fun all all' => all' = all ∧ ∀ found ∈ all, found.2.isClear change.terms)
    (split change.first) (split change.second) ?_ ?_ Entry.attributesOf
  · rintro front _ back _ ⟨rfl, onFront⟩ ⟨rfl, onBack⟩
    exact ⟨rfl, List.forall_mem_append.mpr ⟨onFront, onBack⟩⟩
  · exact ⟨rfl, List.forall_mem_nil _⟩

theorem Rows.compactEntries (rows : Rows change R entries entries' slot) :
    List.Forall₂ (fun entry entry' => slot.isCompact →
        Named change R entry.2 (compactChildren entry.1) entry'.2 (compactChildren entry'.1))
      (MarkupSpec.compactEntries entries) (MarkupSpec.compactEntries entries') := by
  have split (entry : Value × Value) (rest : Entries) : MarkupSpec.compactEntries (entry :: rest) =
      MarkupSpec.compactEntries [entry] ++ MarkupSpec.compactEntries rest :=
    List.filter_append [entry] rest
  exact rows.assemble split split (fun front back => List.rel_append front back) .nil
    Entry.compactEntries

theorem Rows.markedEntries (rows : Rows change R entries entries' slot) :
    List.Forall₂ (fun entry entry' => slot.isMarked →
        change.isPlain entry.1 ∧ Marked change R entry entry')
      (MarkupSpec.markedEntries change.first entries)
      (MarkupSpec.markedEntries change.second entries') := by
  have split (marker : Marker) (entry : Value × Value) (rest : Entries) :
      MarkupSpec.markedEntries marker (entry :: rest) =
        MarkupSpec.markedEntries marker [entry] ++ MarkupSpec.markedEntries marker rest :=
    List.filterMap_append (l := [entry])
  exact rows.assemble (split change.first) (split change.second)
    (fun front back => List.rel_append front back) .nil Entry.markedEntries

theorem Rows.lookup (rows : Rows change R entries entries' slot) :
    Option.Rel
      (fun value value' => value.isAbsent ∧ value' = value ∨ Explicit change R value value')
      (Value.lookup .null entries) (Value.lookup .null entries') := by
  have split (entry : Value × Value) (rest : Entries) : Value.lookup .null (entry :: rest) =
      (Value.lookup .null [entry]).or (Value.lookup .null rest) := by
    rw [Value.lookup, Value.lookup]
    split
    · rfl
    · rfl
  refine rows.assemble split split (fun front back => ?_) .none Entry.lookup
  cases front with
  | none => exact back
  | some alike => exact .some alike

/-! ### The name slot -/

theorem Explicit.absent {value value' : Value} (alike : Explicit change R value value') :
    value'.isAbsent = value.isAbsent ∧ Build.absent value' = Build.absent value := by
  have there {value value' : Value} (isCountable : value.isCountable)
      (isCountable' : value'.isCountable) (isThere : value.isAbsent = false)
      (isThere' : value'.isAbsent = false) :
      value'.isAbsent = value.isAbsent ∧ Build.absent value' = Build.absent value := by
    simp only [Build.absent, isCountable, isCountable', isThere, isThere', if_true, and_self]
  cases alike with
  | bare _ named =>
      cases named with
      | @special word =>
          have isThere (marker : Marker) : (Value.text (marker.mark word)).isAbsent = false := by
            simp [Value.isAbsent, mark_ne_empty]
          exact there rfl rfl (isThere _) (isThere _)
      | element => exact ⟨rfl, rfl⟩
  | list | tuple => exact there rfl rfl rfl rfl
  | range | stream | spent => exact ⟨rfl, rfl⟩

theorem Rows.absent (rows : Rows change R entries entries' slot) :
    Build.absent ((Value.lookup .null entries').getD .null) =
      Build.absent ((Value.lookup .null entries).getD .null) := by
  have found := rows.lookup
  generalize Value.lookup .null entries = value at found ⊢
  generalize Value.lookup .null entries' = value' at found ⊢
  cases found with
  | none => rfl
  | some alike =>
      rcases alike with ⟨-, rfl⟩ | alike
      · rfl
      · exact alike.absent.2

theorem Rows.explicitSlot? (rows : Rows change R entries entries' slot) :
    Option.Rel (Explicit change R) (MarkupSpec.explicitSlot? entries)
      (MarkupSpec.explicitSlot? entries') := by
  have found := rows.lookup
  unfold MarkupSpec.explicitSlot?
  generalize Value.lookup .null entries = value at found ⊢
  generalize Value.lookup .null entries' = value' at found ⊢
  cases found with
  | none => exact .none
  | @some value value' alike =>
      rcases alike with ⟨isAbsent, rfl⟩ | alike
      · simp only [Option.filter, isAbsent]
        exact .none
      · simp only [Option.filter, alike.absent.1]
        split
        · exact .some alike
        · exact .none

variable (change R) in
/-- The name slots of two maps that are respelled. -/
inductive Slots : NameSlot → NameSlot → Prop
  | explicit {value value'} : Explicit change R value value' →
      Slots (.explicit value) (.explicit value')
  | compact {key name key' name'} :
      Named change R name (compactChildren key) name' (compactChildren key') →
      Slots (.compact key name) (.compact key' name')
  | marked {word value value'} : change.isPlain word →
      Marked change R (word, value) (word, value') →
      Slots (.marked word value) (.marked word value')
  | missing : Slots .missing .missing
  | ambiguous {form keys keys'} : Slots (.ambiguous form keys) (.ambiguous form keys')

theorem Rows.slots (rows : Rows change R entries entries' (nameSlot change.first entries)) :
    Slots change R (nameSlot change.first entries) (nameSlot change.second entries') := by
  have explicit := rows.explicitSlot?
  have compact := rows.compactEntries
  have marked := rows.markedEntries
  clear rows
  unfold nameSlot at *
  generalize MarkupSpec.explicitSlot? entries = found at *
  generalize MarkupSpec.explicitSlot? entries' = found' at *
  generalize MarkupSpec.compactEntries entries = keys at *
  generalize MarkupSpec.compactEntries entries' = keys' at *
  generalize MarkupSpec.markedEntries change.first entries = words at *
  generalize MarkupSpec.markedEntries change.second entries' = words' at *
  cases explicit with
  | some alike => exact .explicit alike
  | none =>
      cases compact with
      | cons named others =>
          cases others with
          | nil => exact .compact (named rfl)
          | cons => exact .ambiguous
      | nil =>
          cases marked with
          | nil => exact .missing
          | cons alike others =>
              cases others with
              | nil =>
                  obtain ⟨isPlain, isMarked⟩ := alike rfl
                  cases isMarked with
                  | name isWord named => exact .marked isPlain (.name isWord named)
                  | special isKind isClear => exact .marked isPlain (.special isKind isClear)
                  | children noElement noKind child =>
                      exact .marked isPlain (.children noElement noKind child)
              | cons => exact .ambiguous

/-! ### What a name selects -/

variable (change R) in
/-- What two values that are respelled are read as. -/
inductive Part : Spec → Spec → Prop
  | whole {spec} : spec.isWhole → spec.IsClear change.terms → Part spec spec
  | sequence {items items'} : List.Forall₂ R items items' →
      Part (.sequence items) (.sequence items')
  | element {name attributes children children'} : name.isClear change.terms →
      (∀ found ∈ attributes, found.2.isClear change.terms) → List.Forall₂ R children children' →
      Part (.element name attributes children) (.element name attributes children')

/-- A name selects the same in both specs. -/
theorem Named.part {name name' : Value} {children children' : List Value}
    {attributes : RawAttributes} (named : Named change R name children name' children')
    (areClear : ∀ found ∈ attributes, found.2.isClear change.terms) :
    Part change R (.ofNamed change.first name children attributes)
      (.ofNamed change.second name' children' attributes) := by
  have inherited := inherited_isClear change.terms
  unfold Spec.ofNamed
  cases named with
  | @special word _ isKind areChildren =>
      have selects (marker : Marker) :
          specialKind? marker (.text (marker.mark word)) = SpecialKind.ofWord? word := by
        simp [specialKind?, markedWord?, Value.text?]
      rw [selects, selects]
      obtain ⟨kind, isKind⟩ := Option.isSome_iff_exists.mp isKind
      rw [isKind]
      cases kind with
      | comment => exact .whole rfl (inherited.comment.mpr areChildren)
      | cdata => exact .whole rfl (inherited.cdata.mpr areChildren)
      | doctype => exact .whole rfl (inherited.doctype.mpr ⟨areChildren, areClear⟩)
      | instruction => exact .whole rfl (inherited.instruction.mpr ⟨areChildren, areClear⟩)
  | element isClear isPlain areChildren =>
      have noKind : specialKind? change.first name = none ∧
          specialKind? change.second name = none := by
        cases name with
        | text content =>
            obtain ⟨first, second⟩ := unmark?_of_isPlain (isPlain content rfl)
            simp [specialKind?, markedWord?, Value.text?, first, second]
        | _ => exact ⟨rfl, rfl⟩
      rw [noKind.1, noKind.2]
      exact .element isClear areClear areChildren

end Reading

/-! ## Reading a spec -/

section Steps

variable {change : Respelling} {value value' : Value} {entries entries' : Entries} {word : String}

/-- A range has the same integers in both worlds. -/
theorem echo_rangeMembers (terms : Terms) (start stop step : Int) :
    Echo terms.likeness
      (fun items items' => items' = items ∧ ∀ item ∈ items, ∃ number, item = .int number)
      (rangeMembers start stop step) (rangeMembers start stop step) := by
  unfold rangeMembers
  dsimp only
  split
  · exact Echo.throw ⟨rfl, nofun⟩
  · split
    · exact Echo.throw ⟨rfl, nofun⟩
    · refine Echo.pure ⟨rfl, fun item among => ?_⟩
      obtain ⟨index, -, rfl⟩ := List.mem_map.mp among
      exact ⟨_, rfl⟩

theorem respelled_ints {items : List Value}
    (areInts : ∀ item ∈ items, ∃ number, item = .int number) :
    List.Forall₂ (Respelled change) items items := by
  refine List.forall₂_same.mpr fun item among => ?_
  obtain ⟨number, rfl⟩ := areInts item among
  exact .whole rfl rfl

theorem Respelled.absent (respelled : Respelled change value value') :
    Build.absent value' = Build.absent value := by
  cases respelled with
  | whole | stream => rfl
  | list all | tuple all | map all => cases all <;> rfl

theorem Respelled.shape (respelled : Respelled change value value') :
    value'.isNull = value.isNull ∧ value'.isSequence = value.isSequence := by
  cases respelled <;> exact ⟨rfl, rfl⟩

theorem Respelled.members (respelled : Respelled change value value') :
    Echo change.terms.likeness (List.Forall₂ (Respelled change)) (Build.members value)
      (Build.members value') := by
  cases respelled with
  | whole isWhole =>
      cases value with
      | list | tuple | map | stream | function => cases isWhole
      | range start stop step =>
          refine Echo.mono (echo_rangeMembers _ start stop step) ?_
          rintro items _ ⟨rfl, areInts⟩
          exact respelled_ints areInts
      | _ => exact Echo.pure .nil
  | list all | tuple all => exact Echo.pure all
  | stream isAside all =>
      refine Echo.mono (echo_drain isAside) ?_
      rintro _ _ (⟨rfl, rfl⟩ | ⟨rfl, rfl⟩)
      · exact all
      · exact .nil
  | map => exact Echo.pure .nil

theorem Respelled.asChildren (respelled : Respelled change value value') :
    Echo change.terms.likeness (List.Forall₂ (Respelled change)) (MarkupSpec.asChildren value)
      (MarkupSpec.asChildren value') := by
  unfold MarkupSpec.asChildren
  rw [respelled.shape.1, respelled.shape.2]
  split
  · exact Echo.pure .nil
  · split
    · exact respelled.members
    · exact Echo.pure (.cons respelled .nil)

theorem Explicit.read (alike : Explicit change (Respelled change) value value') :
    Echo change.terms.likeness
      (fun found found' => Named change (Respelled change) found.1 found.2 found'.1 found'.2)
      (readExplicit value) (readExplicit value') := by
  have nothing : Named change (Respelled change) .null [] .null [] := .element rfl nofun .nil
  cases alike with
  | bare noSequence named =>
      have noSequence' : value'.isSequence = false := by
        cases named with
        | special => rfl
        | element => exact noSequence
      simp only [readExplicit, noSequence, noSequence']
      exact Echo.pure named
  | list named | tuple named => exact Echo.pure named
  | range =>
      refine Echo.bind (echo_rangeMembers _ _ _ _) fun items items' holds => ?_
      obtain ⟨rfl, areInts⟩ := holds
      cases items' with
      | nil => exact Echo.pure nothing
      | cons first rest =>
          rw [List.forall_mem_cons] at areInts
          obtain ⟨⟨number, rfl⟩, areInts⟩ := areInts
          exact Echo.pure (.element rfl nofun (respelled_ints areInts))
  | stream isAside named =>
      refine Echo.bind (echo_drain isAside) ?_
      rintro _ _ (⟨rfl, rfl⟩ | ⟨rfl, rfl⟩)
      · exact Echo.pure named
      · exact Echo.pure nothing
  | spent isAside =>
      refine Echo.bind (echo_drain isAside) ?_
      rintro _ _ (⟨rfl, rfl⟩ | ⟨rfl, rfl⟩)
      · exact Echo.pure nothing
      · exact Echo.pure nothing

theorem not_isElementWord (isKind : (SpecialKind.ofWord? word).isSome) :
    isElementWord word = false := by
  unfold SpecialKind.ofWord? at isKind
  split at isKind
  all_goals first | rfl | cases isKind

theorem Marked.read (isPlain : change.isPlain word)
    (marked : Marked change (Respelled change) (word, value) (word, value')) :
    Echo change.terms.likeness
      (fun found found' => Named change (Respelled change) found.1 found.2 found'.1 found'.2)
      (readMarked change.first word value) (readMarked change.second word value') := by
  unfold readMarked
  cases marked with
  | name isWord named =>
      rw [if_pos isWord, if_pos isWord]
      exact Echo.pure named
  | special isKind isClear =>
      simp only [not_isElementWord isKind, isKind, Bool.false_eq_true, if_false, if_true]
      refine Echo.bind ((kindred_clear change.terms).likewise_asChildren isClear) ?_
      rintro children _ ⟨rfl, areClear⟩
      exact Echo.pure (.special isKind areClear)
  | children noElement noKind respelled =>
      simp only [noElement, noKind, Option.isSome_none, Bool.false_eq_true, if_false]
      refine Echo.bind respelled.asChildren fun children children' all => Echo.pure ?_
      refine .element rfl ?_ all
      rintro _ ⟨rfl⟩
      exact isPlain

theorem Rows.parse {settings : Settings} {path path' : List String}
    (rows : Rows change (Respelled change) entries entries' (nameSlot change.first entries)) :
    Echo change.terms.likeness (Part change (Respelled change))
      (parseMap (settings.spelled change.first) path entries)
      (parseMap (settings.spelled change.second) path' entries') := by
  have kindred := kindred_clear change.terms
  obtain ⟨attributes, areClear⟩ := rows.attributesOf
  have slots := rows.slots
  unfold parseMap
  rw [rows.absent]
  dsimp only [Settings.spelled]
  rw [attributes]
  refine Echo.bind (kindred.likewise_absent _).discard fun _ _ _ => ?_
  generalize nameSlot change.first entries = slot at slots ⊢
  generalize nameSlot change.second entries' = slot' at slots ⊢
  cases slots with
  | explicit alike => exact Echo.bind alike.read fun _ _ named => Echo.pure (named.part areClear)
  | compact named => exact Echo.pure (named.part areClear)
  | marked isPlain marked =>
      exact Echo.bind (marked.read isPlain) fun _ _ named => Echo.pure (named.part areClear)
  | missing =>
      have nothing : Named change (Respelled change) .null [] .null [] := .element rfl nofun .nil
      exact Echo.pure (nothing.part areClear)
  | ambiguous =>
      have quotes : Echo change.terms.likeness (fun _ _ => True) (Build.quoted (.map entries))
          (Build.quoted (.map entries')) := fun _ _ even => .ok trivial even
      exact Echo.bind quotes fun _ _ _ => Echo.throw ⟨rfl, nofun⟩

theorem Respelled.parse {settings : Settings} {path path' : List String}
    (respelled : Respelled change value value') :
    Echo change.terms.likeness (Option.Rel (Part change (Respelled change)))
      (MarkupSpec.parse (settings.spelled change.first) path value)
      (MarkupSpec.parse (settings.spelled change.second) path' value') := by
  unfold MarkupSpec.parse
  rw [respelled.absent]
  refine Echo.bind ((kindred_clear change.terms).likewise_absent value) ?_
  rintro isAbsent _ ⟨rfl, -⟩
  split
  · exact Echo.pure .none
  · have members := respelled.members
    have sequence {items items' : List Value} (all : List.Forall₂ (Respelled change) items items') :
        Option.Rel (Part change (Respelled change)) (some (.sequence items))
          (some (.sequence items')) := .some (.sequence all)
    cases respelled with
    | whole isWhole isClear =>
        cases value with
        | list | tuple | map | stream | function => cases isWhole
        | node => exact Echo.pure (.some (.whole rfl (Spec.has_existing.mpr isClear)))
        | range => exact Echo.bind members fun _ _ all => Echo.pure (sequence all)
        | _ => exact Echo.pure (.some (.whole rfl (Spec.has_text.mpr isClear)))
    | list | tuple | stream => exact Echo.bind members fun _ _ all => Echo.pure (sequence all)
    | map rows => exact Echo.bind rows.parse fun _ _ part => Echo.pure (.some part)

/-- Reading goes the same way at the same depth. -/
theorem Respelled.readPart {settings : Settings} {place place' : Place}
    (respelled : Respelled change value value') (depth : place'.depth = place.depth) :
    Echo change.terms.likeness (Option.Rel (Part change (Respelled change)))
      (MarkupSpec.readPart (settings.spelled change.first) value place)
      (MarkupSpec.readPart (settings.spelled change.second) value' place') := by
  have checks : Likewise change.terms.likeness Anything (checkDepth settings value place)
      (checkDepth settings value' place') := likewise_checkDepth trivial (.inr depth)
  refine Echo.bind checks fun _ _ _ => Echo.bind respelled.parse fun found found' alike => ?_
  cases alike with
  | none => exact Echo.pure .none
  | some part =>
      exact Echo.bind ((kindred_clear change.terms).likewise_note _ _ _ _) fun _ _ _ =>
        Echo.pure (.some part)

end Steps

/-! ## Building a spec -/

section Build

variable {change : Respelling} {scene : Scene} {below below' : Builder} {place place' : Place}

/-- Specs that are respelled are built alike at places that match. -/
def Builds (change : Respelling) (below below' : Builder) : Prop :=
  ∀ value value' place place', Respelled change value value' → place.Matches change.terms place' →
    Likewise change.terms.likeness Anything (below value place) (below' value' place')

theorem Builds.members (each : Builds change below below') {items items' : List Value}
    (all : List.Forall₂ (Respelled change) items items')
    (matching : place.Matches change.terms place') : ∀ (index : Nat) (last : Option NodeId),
      Likewise change.terms.likeness Anything (buildMembers below place index last items)
        (buildMembers below' place' index last items') := by
  induction all with
  | nil => exact fun _ _ => likewise_pure trivial
  | cons respelled _ ih =>
      intro index last
      exact (each _ _ _ _ respelled (matching.deeper _ _)).bind fun node _ => ih _ _

theorem Builds.children (each : Builds change below below') {children children' : List Value}
    (all : List.Forall₂ (Respelled change) children children')
    (matching : place.Matches change.terms place') :
    Likewise change.terms.likeness Anything (buildChildren below children place)
      (buildChildren below' children' place') := by
  cases all with
  | nil => exact likewise_pure trivial
  | cons first rest => exact each _ _ _ _ (.list (.cons first rest)) matching

theorem Builds.spec (each : Builds change below below')
    (given : AreClear change.terms scene.arguments)
    (matching : place.Matches change.terms place') {spec spec' : Spec}
    (part : Part change (Respelled change) spec spec') :
    Likewise change.terms.likeness Anything (buildSpec scene below place spec)
      (buildSpec scene below' place' spec') := by
  cases part with
  | whole isWhole isClear =>
      cases spec with
      | sequence | callable | element => cases isWhole
      | doctype children attributes =>
          obtain ⟨areClear, areAttributes⟩ := (inherited_isClear change.terms).doctype.mp isClear
          exact (likewise_buildDoctype given areClear areAttributes).bind fun _ _ =>
            likewise_pure trivial
      | comment | cdata | instruction | existing | text =>
          exact likewise_buildLeaf given matching isClear
  | sequence all =>
      exact likewise_buildSequence matching fun inside inside' within _ =>
        each.members all within 0 none
  | element isName areAttributes all =>
      exact likewise_buildElement given matching isName areAttributes
        fun inside inside' within _ => each.children all within

/-- With a budget the same holds for all that is built within it. -/
theorem builds_within (given : AreClear change.terms scene.arguments) :
    ∀ budget, Builds change (buildWithin (scene.spelled change.first) budget)
      (buildWithin (scene.spelled change.second) budget)
  | 0, _, _, _, _, _, _ => Echo.throw ⟨rfl, nofun⟩
  | budget + 1, value, value', place, place', respelled, matching => by
      refine Echo.bind (respelled.readPart (matching.depth trivial)) fun found found' alike => ?_
      cases alike with
      | none => exact likewise_pure trivial
      | some part =>
          have spelled (marker : Marker) (below : Builder) (place : Place) (spec : Spec) :
              buildSpec (scene.spelled marker) below place spec =
                buildSpec scene below place spec :=
            buildSpec_settings scene (scene.settings.spelled marker) place rfl below spec
          dsimp only
          rw [spelled, spelled]
          exact (builds_within given budget).spec given matching part

end Build

end Respelling

/-! ## The whole build -/

/-- The marker is only a spelling.  A spec that is respelled is built with the new marker as it is
with the old one: it comes to the same result, or fails for a cause of the same kind, and both
builds leave the same forest. -/
theorem compile_respelled (settings : Settings) (change : Respelling) {spec spec' : Value}
    (where? : Option (Mode × Value)) (document : Value) {arguments : Value} {world world' : World}
    (areClear : arguments.isClear change.terms) (respelled : change.Respelled spec spec')
    (even : world.Even change.terms world') :
    Echoes sameTree (fun result result' => result' = result)
      (compile (settings.spelled change.first) spec where? document arguments world)
      (compile (settings.spelled change.second) spec' where? document arguments world') := by
  have spreads := (kindred_clear change.terms).likewise_spread areClear
  have getsReady := likewise_prepare settings where? document spreads
  have spelled (marker : Marker) : prepare (settings.spelled marker) where? document arguments =
      (fun task => task.spelled marker) <$> prepare settings where? document arguments :=
    prepare_settings (Settings.spelled · marker) rfl
  have echo : Echo change.terms.likeness (fun result result' => result' = result)
      (compile (settings.spelled change.first) spec where? document arguments)
      (compile (settings.spelled change.second) spec' where? document arguments) := by
    unfold compile compileWithin
    rw [spelled, spelled, bind_map_left, bind_map_left]
    refine Echo.bind getsReady ?_
    rintro task _ ⟨rfl, -, given⟩
    refine Echo.bind (Respelling.builds_within given _ spec spec' _ _ respelled (.refl _)) ?_
    rintro last _ ⟨rfl, -⟩
    exact Echo.pure rfl
  refine (echo world world' even).mono (fun _ _ => id) ?_ (fun _ _ alike => alike.1) fun _ _ even =>
    even.forest
  exact fun _ excuse => excuse.1 trivial

/-- What a stream gives to an element that is written with a marker. -/
def markedRest (marker : Marker) : List Value :=
  [.map [(.text (marker.mark "cdata"), .text "d")]]

/-- An element with a comment, two elements with names of their own, and what a stream gives. -/
def markedPage (marker : Marker) : Value :=
  .map [(.text "id", .int 1), (.text (marker.mark "div"), .list [
    .map [(.null, .list [.text (marker.mark "comment"), .text "c"]),
      (.text (marker.mark "unread"), .null)],
    .map [(.text (marker.mark "tag"), .text "b")],
    .map [(.tuple [.text "t"], .text "i")],
    .stream 0])]

/-- A world with a stream for such an element. -/
def markedWorld (marker : Marker) : World := { smallWorld with streams := #[markedRest marker] }

/-- With a dollar sign in the place of the usual marker it is built to the same six nodes. -/
theorem compile_respelled_markedPage :
    let dollar : Marker := { char := '$' }
    let change : Respelling :=
      { first := .usual, second := dollar
        aside := fun | 0 => some (markedRest .usual, markedRest dollar) | _ => none }
    endsIn (compile (({} : Settings).spelled dollar) (markedPage dollar) none (.node 0) (.list []))
      (markedWorld dollar)
      (fun result after => result.node? = some 8 ∧ after.forest.children 3 = [4, 5, 6, 8])
      (fun _ _ => False) ∧
    change.Respelled (markedPage .usual) (markedPage dollar) ∧
    Echoes sameTree (fun result result' => result' = result)
      (compile (({} : Settings).spelled .usual) (markedPage .usual) none (.node 0) (.list [])
        (markedWorld .usual))
      (compile (({} : Settings).spelled dollar) (markedPage dollar) none (.node 0) (.list [])
        (markedWorld dollar)) := by
  intro dollar change
  have text (content : String) : change.Respelled (.text content) (.text content) := .whole rfl rfl
  have special (word : String) (isKind : (SpecialKind.ofWord? word).isSome) (content : String) :
      change.Named change.Respelled (.text (Marker.usual.mark word)) [.text content]
        (.text (dollar.mark word)) [.text content] :=
    .special isKind (List.forall_mem_singleton.mpr rfl)
  have plain (word : String) (isPlain : change.isPlain word) {children children' : List Value}
      (all : List.Forall₂ change.Respelled children children') :
      change.Named change.Respelled (.text word) children (.text word) children' := by
    refine .element rfl ?_ all
    rintro _ ⟨rfl⟩
    exact isPlain
  have comment := special "comment" rfl "c"
  have respelled : change.Respelled (markedPage .usual) (markedPage dollar) := by
    refine .map (.cons (.plain (by decide) rfl) (.cons (.marked (by decide) fun _ => ?_) .nil))
    refine .children rfl rfl (.list (.cons ?_ (.cons ?_ (.cons ?_ (.cons ?_ .nil)))))
    · exact .map (.cons (.explicit (.list comment)) (.cons (.marked (by decide) nofun) .nil))
    · exact .map (.cons (.marked (by decide) fun _ => .name rfl (plain "b" (by decide) .nil)) .nil)
    · refine .map (.cons (.compact rfl rfl fun _ => plain "i" (by decide) ?_) .nil)
      exact .cons (text "t") .nil
    · refine .stream rfl (.cons (.map (.cons (.marked (by decide) fun _ => ?_) .nil)) .nil)
      exact .special rfl rfl
  have even : (markedWorld .usual).Even change.terms (markedWorld dollar) :=
    { forest := rfl
      nextId := rfl
      names := rfl
      names' := rfl
      clear := nofun
      size := rfl
      streams := fun
        | 0 => .unread rfl
        | _ + 1 => .missing rfl
      calls := fun _ => rfl }
  exact ⟨by decide +kernel, respelled,
    compile_respelled {} change none (.node 0) rfl respelled even⟩

end MarkupSpec
