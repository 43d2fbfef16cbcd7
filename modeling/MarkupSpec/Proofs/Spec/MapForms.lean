import MarkupSpec.Proofs.Namespace.BuiltElements
import MarkupSpec.Proofs.Spec.StreamlessReading

/-!
# Three forms of one map

A map can give a name and children in three forms (`MapForm`): with a list of them under null, with
the children under a marked key, or with the children as a key and the name as its value.  Which of
the forms a map has does not matter (`compile_write`).  All three are read as the same name,
children and attributes, and so a build goes the same way, step by step.

Reading them is put together from what the entries of each form hold and what the attributes
hold, which is no slot at all (`keyedEntries`).  A word for a special kind has the marker in front
wherever it stands for a name, and is without one in a marked key alone (`Marker.nameOf`).
-/

namespace MarkupSpec

/-- The name that a word stands for.  A word for a special kind needs the marker. -/
def Marker.nameOf (marker : Marker) (word : String) : String :=
  if (SpecialKind.ofWord? word).isSome then marker.mark word else word

/-- The forms in which a map can give a name and children. -/
inductive MapForm where
  /-- The entry of null holds the name and then the children. -/
  | explicit
  /-- The key is the marker and the word, and its value holds the children. -/
  | marked
  /-- The key holds the children, which must be keys themselves, and its value is the name. -/
  | compact
deriving DecidableEq, Repr

/-- The entry of a map in which a form has the name and the children. -/
def MapForm.entry (form : MapForm) (marker : Marker) (word : String) (children : List Value) :
    Value × Value :=
  match form with
  | .explicit => (.null, .list (.text (marker.nameOf word) :: children))
  | .marked => (.text (marker.mark word), .list children)
  | .compact => (.tuple children, .text (marker.nameOf word))

/-- The entries of a map for attributes. -/
def keyedEntries (attributes : RawAttributes) : Entries :=
  attributes.map fun (key, value) => (.text key, value)

/-- A map with a name, children and attributes, in one of the forms. -/
def MapForm.write (form : MapForm) (marker : Marker) (word : String) (children : List Value)
    (attributes : RawAttributes) : Value :=
  .map (form.entry marker word children :: keyedEntries attributes)

/-! ## How the forms are read -/

section Reading

variable {marker : Marker} {attributes : RawAttributes}
  (plain : ∀ entry ∈ attributes, marker.unmark? entry.1 = none)

theorem lookup_keyedEntries (attributes : RawAttributes) :
    Value.lookup .null (keyedEntries attributes) = none := by
  induction attributes with
  | nil => rfl
  | cons entry rest ih => exact ih

theorem compactEntries_keyedEntries (attributes : RawAttributes) :
    compactEntries (keyedEntries attributes) = [] := by
  induction attributes with
  | nil => rfl
  | cons entry rest ih => exact ih

include plain

theorem markedEntries_keyedEntries : markedEntries marker (keyedEntries attributes) = [] := by
  induction attributes with
  | nil => rfl
  | cons entry rest ih =>
      obtain ⟨here, later⟩ := List.forall_mem_cons.mp plain
      have unmarked : markedWord? marker (.text entry.1) = none := here
      show List.filterMap _ (_ :: keyedEntries rest) = []
      rw [List.filterMap_cons]
      dsimp only
      rw [unmarked]
      exact ih later

theorem attributesOf_keyedEntries : attributesOf marker (keyedEntries attributes) = attributes := by
  induction attributes with
  | nil => rfl
  | cons entry rest ih =>
      obtain ⟨here, later⟩ := List.forall_mem_cons.mp plain
      show List.filterMap _ (_ :: keyedEntries rest) = _
      rw [List.filterMap_cons]
      dsimp only
      rw [here]
      exact congrArg (entry :: ·) (ih later)

/-- The entry of a form is no attribute. -/
theorem MapForm.attributesOf (form : MapForm) (word : String) (children : List Value) :
    attributesOf marker (form.entry marker word children :: keyedEntries attributes) =
      attributes := by
  refine Eq.trans ?_ (attributesOf_keyedEntries plain)
  cases form with
  | marked =>
      show List.filterMap _ (_ :: _) = _
      rw [List.filterMap_cons]
      dsimp only [MapForm.entry]
      rw [Marker.unmark?_mark]
      rfl
  | explicit | compact => rfl

/-- In each form there is one slot, with the name and the children. -/
theorem MapForm.namedChildren (form : MapForm) {word : String} (isName : isElementWord word = false)
    (children : List Value) :
    namedChildren? marker (form.entry marker word children :: keyedEntries attributes) =
      some (.text (marker.nameOf word), children) := by
  unfold namedChildren? nameSlot
  cases form with
  | explicit => rfl
  | compact =>
      have noSlot : explicitSlot?
          (entry .compact marker word children :: keyedEntries attributes) = none :=
        congrArg (Option.filter _) (lookup_keyedEntries attributes)
      have only : compactEntries (entry .compact marker word children :: keyedEntries attributes) =
          [entry .compact marker word children] :=
        congrArg (_ :: ·) (compactEntries_keyedEntries attributes)
      rw [noSlot, only]
      rfl
  | marked =>
      have noSlot : explicitSlot?
          (entry .marked marker word children :: keyedEntries attributes) = none :=
        congrArg (Option.filter _) (lookup_keyedEntries attributes)
      have noCompact :
          compactEntries (entry .marked marker word children :: keyedEntries attributes) = [] :=
        compactEntries_keyedEntries attributes
      have unmarked : markedWord? marker (.text (marker.mark word)) = some word :=
        marker.unmark?_mark word
      have only :
          markedEntries marker (entry .marked marker word children :: keyedEntries attributes) =
            [(word, .list children)] := by
        show List.filterMap _ (_ :: _) = _
        rw [List.filterMap_cons]
        dsimp only [MapForm.entry]
        rw [unmarked]
        exact congrArg (_ :: ·) (markedEntries_keyedEntries plain)
      rw [noSlot, noCompact, only]
      dsimp only
      rw [isName, if_neg Bool.false_ne_true]
      rfl

end Reading

/-! ## How they are built -/

section Building

variable {settings : Settings} {value value' : Value} {spec : Spec}

/-- Values that are read alike are built alike at a place that is not too deep. -/
theorem buildWithin_of_isReadAs {scene : Scene} {place : Place}
    (reads : value.IsReadAs scene.settings spec) (reads' : value'.IsReadAs scene.settings spec)
    (admits : scene.settings.Admits place.depth) (budget : Nat) :
    buildWithin scene budget value place = buildWithin scene budget value' place := by
  cases budget with
  | zero => rfl
  | succ budget =>
      unfold buildWithin readPart
      rw [checkDepth_eq admits, checkDepth_eq admits, reads, reads']

/-- A whole spec is never too deep. -/
theorem Settings.admits_zero (settings : Settings) : settings.Admits 0 :=
  fun limit _ => limit.depth.zero_le

/-- Values that are read alike are built alike. -/
theorem compile_of_isReadAs (reads : value.IsReadAs settings spec)
    (reads' : value'.IsReadAs settings spec) (where? : Option (Mode × Value))
    (document arguments : Value) :
    compile settings value where? document arguments =
      compile settings value' where? document arguments := by
  funext world
  cases run : prepare settings where? document arguments world with
  | error cause after =>
      simp only [compile, compileWithin, Bind.bind, EStateM.bind, run]
  | ok task start =>
      obtain rfl := (scene_of_prepare run).1
      have isWhole := task.scene.settings.admits_zero
      rw [compile_of_prepare run, compile_of_prepare run,
        buildWithin_of_isReadAs reads reads' isWhole]

variable {word : String} {attributes : RawAttributes}

/-- A map in one of the forms is read as its name says, with its children and attributes. -/
theorem MapForm.isReadAs (form : MapForm) (isName : isElementWord word = false)
    (plain : ∀ entry ∈ attributes, settings.marker.unmark? entry.1 = none)
    (children : List Value) :
    (form.write settings.marker word children attributes).IsReadAs settings
      (.ofNamed settings.marker (.text (settings.marker.nameOf word)) children attributes) := by
  refine isReadAs_of_reading ?_
  show Option.map _ (namedChildren? settings.marker (_ :: keyedEntries attributes)) = _
  rw [form.namedChildren plain isName, Option.map_some]
  dsimp only
  rw [form.attributesOf plain]

/-- A name and children that a map gives in one form can be given in the others.  Whatever the word
is, unless it says that the value is the name, which no word for a special kind does, and whatever
the children are, all forms are read as the same variant with the same parts.  Wherever it goes and
whatever the world is, a build does the same with each of them. -/
theorem compile_write (settings : Settings) {word : String} (isName : isElementWord word = false)
    {attributes : RawAttributes}
    (plain : ∀ entry ∈ attributes, settings.marker.unmark? entry.1 = none)
    (children : List Value) :
    (∀ form : MapForm, (form.write settings.marker word children attributes).IsReadAs settings
      (.ofNamed settings.marker (.text (settings.marker.nameOf word)) children attributes)) ∧
    ∀ (form form' : MapForm) (where? : Option (Mode × Value)) (document arguments : Value),
      compile settings (form.write settings.marker word children attributes) where? document
          arguments =
        compile settings (form'.write settings.marker word children attributes) where? document
          arguments := by
  have reads (form : MapForm) := form.isReadAs isName plain children
  exact ⟨reads, fun form form' => compile_of_isReadAs (reads form) (reads form')⟩

end Building

/-- A word that begins with the marker itself stands for a comment in all three forms. -/
theorem compile_write_markedWord :
    isElementWord "#comment" = false ∧
    (∀ entry ∈ [("id", Value.int 1)], Marker.usual.unmark? entry.1 = none) ∧
    endsIn (compile {} (MapForm.marked.write .usual "#comment" [.text "c"] [("id", .int 1)])
        (some (.under, .node 1)) .null (.list [])) smallWorld
      (fun result after => result.node? = some 3 ∧ after.forest.children 1 = [2, 3])
      (fun _ _ => False) ∧
    (∀ form : MapForm, (form.write .usual "#comment" [.text "c"] [("id", .int 1)]).IsReadAs {}
      (.comment [.text "c"])) ∧
    ∀ (form form' : MapForm) (where? : Option (Mode × Value)) (document arguments : Value),
      compile {} (form.write .usual "#comment" [.text "c"] [("id", .int 1)]) where? document
          arguments =
        compile {} (form'.write .usual "#comment" [.text "c"] [("id", .int 1)]) where? document
          arguments := by
  have isName : isElementWord "#comment" = false := by decide
  have plain : ∀ entry ∈ [("id", Value.int 1)], Marker.usual.unmark? entry.1 = none :=
    List.forall_mem_singleton.mpr rfl
  have each := compile_write {} isName plain [.text "c"]
  have isComment : Spec.ofNamed Marker.usual (.text (Marker.usual.nameOf "#comment")) [.text "c"]
      [("id", .int 1)] = .comment [.text "c"] := rfl
  exact ⟨isName, plain, by decide +kernel, isComment ▸ each.1, each.2⟩

end MarkupSpec
