import MarkupSpec.Proofs.Spec.Regrouping

/-!
# Reading values without streams

What a value is read as, one level deep, is there to be seen in the value if that holds no stream
(`Value.reading?`).  Reading such a value shows just that and does nothing else
(`reading_of_parse`), and what is to be seen is always what is read (`isReadAs_of_reading`).
-/

namespace MarkupSpec

open Build

/-- Does the value hold no stream?  What functions return does not count. -/
def Value.isStreamless (value : Value) : Bool :=
  value.isClear { aside := fun _ => some ([], []) }

theorem inherited_isStreamless : Inherited fun value => value.isStreamless :=
  inherited_isClear _

/-! ## What there is to be seen -/

/-- The children that a value holds: none for null, the members of a sequence, else the value
alone. -/
def childrenIn? (value : Value) : Option (List Value) :=
  if value.isNull then some []
  else if value.isSequence then value.held?
  else some [value]

/-- The name and the children that a map has by its name slot, if it has one such slot. -/
def namedChildren? (marker : Marker) (entries : Entries) : Option (Value × List Value) :=
  match nameSlot marker entries with
  | .explicit slot =>
      if slot.isSequence then
        slot.held?.map fun items => (items.headD .null, items.tail)
      else some (slot, [])
  | .compact key name => some (name, compactChildren key)
  | .marked word value =>
      if isElementWord word then some (value, [])
      else
        (childrenIn? value).map fun children =>
          (.text (if (SpecialKind.ofWord? word).isSome then marker.mark word else word), children)
  | .missing => some (.null, [])
  | .ambiguous .. => none

/-- What a value is read as, if it holds no stream and anything is made of it. -/
def Value.reading? (marker : Marker) (value : Value) : Option Spec :=
  if value.isAbsent then none
  else
    match value with
    | .node id => some (.existing id)
    | .function callee => some (.callable callee)
    | .map entries =>
        (namedChildren? marker entries).map fun (name, children) =>
          .ofNamed marker name children (attributesOf marker entries)
    | value => if value.isSequence then value.held?.map .sequence else some (.text value)

/-- The value is a map with this name and these children.  It stands for a special kind of node if
the name says so, else for an element. -/
def Value.IsMapOf (value : Value) (marker : Marker) (kind : Option SpecialKind) (name : Value)
    (children : List Value) : Prop :=
  ∃ entries, value = .map entries ∧ namedChildren? marker entries = some (name, children) ∧
    specialKind? marker name = kind

/-- The special kind and the children of what was read by a name. -/
def Spec.named? : Spec → Option (Option SpecialKind × List Value)
  | .element _ _ children => some (none, children)
  | .comment children => some (some .comment, children)
  | .cdata children => some (some .cdata, children)
  | .instruction children _ => some (some .instruction, children)
  | .doctype children _ => some (some .doctype, children)
  | .sequence _ | .callable _ | .existing _ | .text _ => none

section Seen

variable {marker : Marker} {value name : Value} {items children : List Value} {callee : Function}
  {attributes : RawAttributes} {spec : Spec} {kind : Option SpecialKind}

theorem named_ofNamed : ∃ kind, specialKind? marker name = kind ∧
    (Spec.ofNamed marker name children attributes).named? = some (kind, children) ∧
    (kind = none → Spec.ofNamed marker name children attributes =
      .element name attributes children) := by
  unfold Spec.ofNamed
  cases specialKind? marker name with
  | none => exact ⟨none, rfl, rfl, fun _ => rfl⟩
  | some kind => cases kind <;> exact ⟨_, rfl, rfl, nofun⟩

/-- What a value is read as shows its shape, unless it is read by a name. -/
theorem shape_of_reading (reads : value.reading? marker = some spec)
    (unnamed : spec.named? = none) :
    (∀ items, spec = .sequence items → value.held? = some items) ∧
      ∀ callee, spec = .callable callee → value = .function callee := by
  unfold Value.reading? at reads
  split at reads
  · cases reads
  cases value with
  | map entries =>
      obtain ⟨_, -, rfl⟩ := Option.map_eq_some_iff.mp reads
      obtain ⟨kind, -, named, -⟩ := named_ofNamed
      rw [named] at unnamed
      cases unnamed
  | range =>
      obtain ⟨_, held, rfl⟩ := Option.map_eq_some_iff.mp reads
      exact ⟨fun _ same => by cases same; exact held, nofun⟩
  | stream => cases reads
  | list | tuple =>
      cases reads
      exact ⟨fun _ same => by cases same; rfl, nofun⟩
  | function =>
      cases reads
      exact ⟨nofun, fun _ same => by cases same; rfl⟩
  | _ =>
      cases reads
      exact ⟨nofun, nofun⟩

/-- What was read by a name was read of a map with that name. -/
theorem isMapOf_of_reading (kind : Option SpecialKind)
    (reads : value.reading? marker = some spec)
    (named : spec.named? = some (kind, children)) :
    ∃ name, value.IsMapOf marker kind name children ∧
      ∀ given attributes items, spec = .element given attributes items → given = name := by
  unfold Value.reading? at reads
  split at reads
  · cases reads
  cases value with
  | map entries =>
      obtain ⟨⟨name, items⟩, there, rfl⟩ := Option.map_eq_some_iff.mp reads
      obtain ⟨kind', isKind, named', isElement⟩ := named_ofNamed
      rw [named'] at named
      cases named
      refine ⟨name, ⟨entries, rfl, there, isKind⟩, fun given attributes items same => ?_⟩
      dsimp only at same
      rw [same] at named' isElement
      cases named'
      cases isElement rfl
      rfl
  | range =>
      obtain ⟨_, -, rfl⟩ := Option.map_eq_some_iff.mp reads
      cases named
  | stream => cases reads
  | _ =>
      cases reads
      cases named

end Seen

/-! ## What is inherited by what is seen -/

section Inherited

variable {P : Value → Prop} (inherited : Inherited P) {marker : Marker} {value name : Value}
  {items children : List Value} {entries : Entries} {spec : Spec}

include inherited

theorem Inherited.of_held (holds : P value) (held : value.held? = some items) :
    ∀ item ∈ items, P item := by
  cases value with
  | list =>
      cases held
      exact inherited.list.mp holds
  | tuple =>
      cases held
      exact inherited.tuple.mp holds
  | range =>
      obtain ⟨-, rfl⟩ := held_range.mp held
      exact fun _ => inherited.of_mem_rangeItems
  | _ => cases held

theorem Inherited.of_childrenIn (holds : P value) (there : childrenIn? value = some items) :
    ∀ item ∈ items, P item := by
  unfold childrenIn? at there
  split at there
  · cases there
    exact List.forall_mem_nil _
  · split at there
    · exact inherited.of_held holds there
    · cases there
      exact List.forall_mem_singleton.mpr holds

theorem Inherited.of_namedChildren (all : ∀ entry ∈ entries, P entry.1 ∧ P entry.2)
    (there : namedChildren? marker entries = some (name, children)) :
    P name ∧ ∀ child ∈ children, P child := by
  have slot : (nameSlot marker entries).Has P := has_nameSlot all
  unfold namedChildren? at there
  cases slots : nameSlot marker entries with
  | explicit value =>
      rw [slots] at slot there
      dsimp only at there
      split at there
      · obtain ⟨items, held, same⟩ := Option.map_eq_some_iff.mp there
        have all := inherited.of_held slot held
        cases items with
        | nil =>
            cases same
            exact ⟨inherited.bare rfl, List.forall_mem_nil _⟩
        | cons =>
            cases same
            exact List.forall_mem_cons.mp all
      · cases there
        exact ⟨slot, List.forall_mem_nil _⟩
  | compact =>
      rw [slots] at slot there
      cases there
      exact ⟨slot.2, inherited.of_mem_compactChildren slot.1⟩
  | marked word value =>
      rw [slots] at slot there
      dsimp only at there
      split at there
      · cases there
        exact ⟨slot, List.forall_mem_nil _⟩
      · obtain ⟨items, inside, same⟩ := Option.map_eq_some_iff.mp there
        cases same
        exact ⟨inherited.bare rfl, inherited.of_childrenIn slot inside⟩
  | missing =>
      rw [slots] at there
      cases there
      exact ⟨inherited.bare rfl, List.forall_mem_nil _⟩
  | ambiguous =>
      rw [slots] at there
      cases there

theorem Inherited.of_reading (holds : P value) (reads : value.reading? marker = some spec) :
    spec.Has P := by
  unfold Value.reading? at reads
  split at reads
  · cases reads
  cases value with
  | node =>
      cases reads
      exact Spec.has_existing.mpr holds
  | function =>
      cases reads
      exact Spec.has_callable.mpr holds
  | map entries =>
      obtain ⟨⟨name, children⟩, there, rfl⟩ := Option.map_eq_some_iff.mp reads
      have all := inherited.map.mp holds
      obtain ⟨isName, areChildren⟩ := inherited.of_namedChildren all there
      exact inherited.ofNamed isName areChildren (has_of_mem_attributesOf all)
  | list | tuple =>
      cases reads
      exact inherited.sequence.mpr (inherited.of_held holds rfl)
  | range =>
      obtain ⟨items, held, rfl⟩ := Option.map_eq_some_iff.mp reads
      exact inherited.sequence.mpr (inherited.of_held holds held)
  | stream => cases reads
  | _ =>
      cases reads
      exact Spec.has_text.mpr holds

end Inherited

/-! ## Reading what is to be seen -/

section Reading

variable {settings : Settings} {value slot : Value} {entries : Entries} {spec : Spec}
  {items children : List Value} {name : Value} {world after : World}

/-- Where it can be told at all, telling whether a value is absent does nothing else. -/
theorem isAbsent_of_absent {isAbsent : Bool} (run : absent value world = .ok isAbsent after) :
    isAbsent = value.isAbsent ∧ after = world := by
  unfold absent at run
  split at run
  · cases run
    exact ⟨rfl, rfl⟩
  · cases run

/-- A sequence that holds no stream has the members that are to be seen, if it has them at all. -/
theorem held_of_members (isStreamless : value.isStreamless) (isSequence : value.isSequence)
    (run : members value world = .ok items after) : value.held? = some items ∧ after = world := by
  cases value with
  | list | tuple =>
      cases run
      exact ⟨rfl, rfl⟩
  | range start stop step =>
      by_cases room : Value.rangeLength start stop step ≤ roomLimit
      · rw [show members (.range start stop step) = _ from (rangeMembers_of_room room).1] at run
        cases run
        exact ⟨held_range.mpr ⟨room, rfl⟩, rfl⟩
      · have fails : ∃ cause, rangeMembers start stop step = throw cause := by
          unfold rangeMembers
          dsimp only
          split
          · exact ⟨_, rfl⟩
          · rw [if_pos (Nat.lt_of_not_le room)]
            exact ⟨_, rfl⟩
        obtain ⟨cause, fails⟩ := fails
        rw [show members (.range start stop step) = _ from fails] at run
        cases run
  | stream => cases isStreamless
  | _ => cases isSequence

theorem childrenIn_of_run (isStreamless : value.isStreamless)
    (run : asChildren value world = .ok children after) :
    childrenIn? value = some children ∧ after = world := by
  unfold asChildren at run
  unfold childrenIn?
  split at run
  · rename_i isNull
    rw [if_pos isNull]
    cases run
    exact ⟨rfl, rfl⟩
  · rename_i notNull
    rw [if_neg notNull]
    split at run
    · rename_i isSequence
      rw [if_pos isSequence]
      exact held_of_members isStreamless isSequence run
    · rename_i noSequence
      rw [if_neg noSequence]
      cases run
      exact ⟨rfl, rfl⟩

theorem asChildren_of_childrenIn (there : childrenIn? value = some children) :
    asChildren value = pure children := by
  unfold childrenIn? at there
  unfold asChildren
  split at there
  · rename_i isNull
    rw [if_pos isNull]
    cases there
    rfl
  · rename_i notNull
    rw [if_neg notNull]
    split at there
    · rename_i isSequence
      rw [if_pos isSequence]
      exact (members_held there).2
    · rename_i noSequence
      rw [if_neg noSequence]
      cases there
      rfl

theorem namedChildren_of_explicit {marker : Marker} (isStreamless : slot.isStreamless)
    (slots : nameSlot marker entries = .explicit slot)
    (run : readExplicit slot world = .ok (name, children) after) :
    namedChildren? marker entries = some (name, children) ∧ after = world := by
  unfold readExplicit at run
  unfold namedChildren?
  rw [slots]
  dsimp only
  split at run
  · rename_i isSequence
    rw [if_pos isSequence]
    obtain ⟨items, middle, reads, rest⟩ := bind_eq_ok.mp run
    obtain ⟨held, rfl⟩ := held_of_members isStreamless isSequence reads
    rw [held]
    cases items with
    | nil =>
        cases rest
        exact ⟨rfl, rfl⟩
    | cons =>
        cases rest
        exact ⟨rfl, rfl⟩
  · rename_i noSequence
    rw [if_neg noSequence]
    cases run
    exact ⟨rfl, rfl⟩

theorem namedChildren_of_marked {marker : Marker} {word : String}
    (isStreamless : value.isStreamless)
    (slots : nameSlot marker entries = .marked word value)
    (run : readMarked marker word value world = .ok (name, children) after) :
    namedChildren? marker entries = some (name, children) ∧ after = world := by
  unfold readMarked at run
  unfold namedChildren?
  rw [slots]
  dsimp only
  split at run
  · rename_i isElement
    rw [if_pos isElement]
    cases run
    exact ⟨rfl, rfl⟩
  · rename_i noElement
    rw [if_neg noElement]
    obtain ⟨found, middle, reads, rest⟩ := bind_eq_ok.mp run
    obtain ⟨there, rfl⟩ := childrenIn_of_run isStreamless reads
    rw [there]
    cases rest
    exact ⟨rfl, rfl⟩

theorem namedChildren_of_parseMap {path : List String}
    (areStreamless : ∀ entry ∈ entries, entry.1.isStreamless ∧ entry.2.isStreamless)
    (run : parseMap settings path entries world = .ok spec after) :
    (∃ name children, namedChildren? settings.marker entries = some (name, children) ∧
      spec = .ofNamed settings.marker name children (attributesOf settings.marker entries)) ∧
      after = world := by
  unfold parseMap at run
  obtain ⟨_, first, counts, reads⟩ := bind_eq_ok.mp run
  clear run
  obtain rfl : first = world := by
    unfold absent at counts
    split at counts
    · cases counts
      rfl
    · cases counts
  have slot : (nameSlot settings.marker entries).Has fun value => value.isStreamless :=
    has_nameSlot areStreamless
  cases slots : nameSlot settings.marker entries with
  | explicit value =>
      rw [slots] at slot reads
      obtain ⟨⟨name, children⟩, middle, reads, rest⟩ := bind_eq_ok.mp reads
      obtain ⟨there, rfl⟩ := namedChildren_of_explicit slot slots reads
      cases rest
      exact ⟨⟨name, children, there, rfl⟩, rfl⟩
  | marked word value =>
      rw [slots] at slot reads
      obtain ⟨⟨name, children⟩, middle, reads, rest⟩ := bind_eq_ok.mp reads
      obtain ⟨there, rfl⟩ := namedChildren_of_marked slot slots reads
      cases rest
      exact ⟨⟨name, children, there, rfl⟩, rfl⟩
  | compact | missing =>
      rw [slots] at reads
      cases reads
      exact ⟨⟨_, _, by simp only [namedChildren?, slots], rfl⟩, rfl⟩
  | ambiguous =>
      rw [slots] at reads
      cases reads

/-- Reading a value that holds no stream shows what is to be seen, and does nothing else. -/
theorem reading_of_parse (isStreamless : value.isStreamless) {path : List String}
    (run : parse settings path value world = .ok (some spec) after) :
    value.reading? settings.marker = some spec ∧ after = world := by
  unfold parse at run
  obtain ⟨isAbsent, first, counts, reads⟩ := bind_eq_ok.mp run
  clear run
  obtain ⟨rfl, rfl⟩ := isAbsent_of_absent counts
  unfold Value.reading?
  cases isThere : value.isAbsent with
  | true =>
      rw [isThere] at reads
      cases reads
  | false =>
      rw [isThere] at reads
      cases value with
      | node | function =>
          cases reads
          exact ⟨rfl, rfl⟩
      | map entries =>
          obtain ⟨found, middle, reads, rest⟩ := bind_eq_ok.mp reads
          obtain ⟨⟨name, children, there, rfl⟩, rfl⟩ :=
            namedChildren_of_parseMap (inherited_isStreamless.map.mp isStreamless) reads
          cases rest
          exact ⟨by simp [there], rfl⟩
      | list | tuple | range =>
          obtain ⟨items, middle, reads, rest⟩ := bind_eq_ok.mp reads
          obtain ⟨held, rfl⟩ := held_of_members isStreamless rfl reads
          cases rest
          exact ⟨by simp [held, Value.isSequence], rfl⟩
      | stream => cases isStreamless
      | _ =>
          cases reads
          exact ⟨rfl, rfl⟩

/-- Only a value that is absent is read as nothing. -/
theorem nothing_of_parse {path : List String}
    (run : parse settings path value world = .ok none after) :
    value.isCountable ∧ value.isAbsent ∧ after = world := by
  unfold parse at run
  obtain ⟨isAbsent, first, counts, reads⟩ := bind_eq_ok.mp run
  clear run
  cases isAbsent with
  | true =>
      obtain ⟨isAbsent, rfl⟩ := isAbsent_of_absent counts
      have isCountable : value.isCountable := by
        by_contra uncountable
        rw [absent, if_neg uncountable] at counts
        cases counts
      cases reads
      exact ⟨isCountable, isAbsent.symm, rfl⟩
  | false =>
      cases value with
      | map | list | tuple | range | stream =>
          obtain ⟨_, _, _, rest⟩ := bind_eq_ok.mp reads
          cases rest
      | _ => cases reads

theorem parse_of_isAbsent (isCountable : value.isCountable) (isAbsent : value.isAbsent)
    (path : List String) : parse settings path value = pure none := by
  unfold parse absent
  rw [if_pos isCountable, isAbsent]
  rfl

/-- The entry of null of a map can be told to be absent or not, if the map can be read. -/
theorem absent_of_namedChildren {marker : Marker}
    (there : namedChildren? marker entries = some (name, children)) :
    ∃ isAbsent, absent ((Value.lookup .null entries).getD .null) = pure isAbsent := by
  cases found : explicitSlot? entries with
  | none => exact ⟨true, absent_of_explicitSlot? found⟩
  | some slot =>
      have slots : nameSlot marker entries = .explicit slot := by
        unfold nameSlot
        rw [found]
      have looked : Value.lookup .null entries = some slot := (Option.filter_eq_some_iff.mp found).1
      rw [looked, Option.getD_some]
      unfold namedChildren? at there
      rw [slots] at there
      dsimp only at there
      split at there
      · obtain ⟨items, held, -⟩ := Option.map_eq_some_iff.mp there
        exact ⟨_, absent_held held⟩
      · rename_i noSequence
        cases slot with
        | range => exact absurd rfl noSequence
        | _ => exact ⟨_, rfl⟩

theorem readExplicit_of_namedChildren {marker : Marker}
    (slots : nameSlot marker entries = .explicit slot)
    (there : namedChildren? marker entries = some (name, children)) :
    readExplicit slot = pure (name, children) := by
  unfold namedChildren? at there
  rw [slots] at there
  dsimp only at there
  unfold readExplicit
  split at there
  · rename_i isSequence
    rw [if_pos isSequence]
    obtain ⟨items, held, same⟩ := Option.map_eq_some_iff.mp there
    rw [(members_held held).2, pure_bind]
    cases items <;> cases same <;> rfl
  · rename_i noSequence
    rw [if_neg noSequence]
    cases there
    rfl

theorem readMarked_of_namedChildren {marker : Marker} {word : String}
    (slots : nameSlot marker entries = .marked word value)
    (there : namedChildren? marker entries = some (name, children)) :
    readMarked marker word value = pure (name, children) := by
  unfold namedChildren? at there
  rw [slots] at there
  dsimp only at there
  unfold readMarked
  split at there
  · rename_i isElement
    rw [if_pos isElement]
    cases there
    rfl
  · rename_i noElement
    rw [if_neg noElement]
    obtain ⟨found, inside, same⟩ := Option.map_eq_some_iff.mp there
    rw [asChildren_of_childrenIn inside]
    cases same
    rfl

/-- A map is read by its name and its children, if these are to be seen. -/
theorem parseMap_of_namedChildren
    (there : namedChildren? settings.marker entries = some (name, children)) (path : List String) :
    parseMap settings path entries =
      pure (.ofNamed settings.marker name children (attributesOf settings.marker entries)) := by
  obtain ⟨isAbsent, tells⟩ := absent_of_namedChildren there
  have counts : discard (absent ((Value.lookup .null entries).getD .null)) = pure () := by
    rw [tells]
    rfl
  unfold parseMap
  dsimp only
  rw [counts, pure_bind]
  cases slots : nameSlot settings.marker entries with
  | explicit slot =>
      dsimp only
      rw [readExplicit_of_namedChildren slots there, pure_bind]
  | marked word value =>
      dsimp only
      rw [readMarked_of_namedChildren slots there, pure_bind]
  | compact | missing =>
      simp only [namedChildren?, slots] at there
      cases there
      rfl
  | ambiguous =>
      simp only [namedChildren?, slots] at there
      cases there

/-- A value is read as what is to be seen in it. -/
theorem isReadAs_of_reading (reads : value.reading? settings.marker = some spec) :
    value.IsReadAs settings spec := by
  intro path
  unfold Value.reading? at reads
  split at reads
  · cases reads
  rename_i isThere
  have isThere : value.isAbsent = false := Bool.eq_false_iff.mpr isThere
  have tells (isCountable : value.isCountable) : absent value = pure false := by
    rw [absent, if_pos isCountable, isThere]
  unfold parse
  cases value with
  | node | function =>
      rw [tells rfl]
      cases reads
      rfl
  | map entries =>
      obtain ⟨⟨name, children⟩, there, rfl⟩ := Option.map_eq_some_iff.mp reads
      rw [tells rfl, pure_bind, if_neg Bool.false_ne_true]
      dsimp only
      rw [parseMap_of_namedChildren there, pure_bind]
  | list | tuple =>
      cases reads
      rw [tells rfl]
      rfl
  | range start stop step =>
      simp only [Value.isSequence, if_true] at reads
      obtain ⟨items, held, rfl⟩ := Option.map_eq_some_iff.mp reads
      obtain ⟨room, rfl⟩ := held_range.mp held
      obtain ⟨gives, isCountable⟩ := rangeMembers_of_room room
      rw [tells isCountable]
      show (rangeMembers start stop step >>= fun items => pure (some (Spec.sequence items))) = _
      rw [gives]
      rfl
  | stream => cases reads
  | _ =>
      rw [tells rfl]
      cases reads
      rfl

end Reading

end MarkupSpec
