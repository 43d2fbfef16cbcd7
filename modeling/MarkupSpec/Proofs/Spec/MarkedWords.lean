import MarkupSpec.Proofs.Page.Draft
import MarkupSpec.Proofs.Spec.MapForms
import MarkupSpec.Proofs.Spec.NameSlots

/-!
# Free words behind the marker

A word behind the marker is free if it neither says that the value is a name nor selects a kind of
nodes.  A map that has its name from such a key takes the word itself for the name, and its children
from the value (`parse_marked`).

The name is then looked at for a marker like any other one.  So a free word that is the marker again
and a word for a kind does not give an element, but a node of that kind (`ofNamed_free_iff`).
-/

namespace MarkupSpec

/-- A word that is neither one for elements nor one for a kind of nodes. -/
structure IsFreeWord (word : String) : Prop where
  noElement : isElementWord word = false
  noKind : SpecialKind.ofWord? word = none

section Slot

variable {marker : Marker} {word : String} {value : Value} {entries : Entries}
  {front back : RawAttributes}

theorem textKeys_keyedEntries (attributes : RawAttributes) :
    TextKeys (keyedEntries attributes) := by
  intro entry among
  obtain ⟨written, -, rfl⟩ := List.mem_map.mp among
  exact ⟨_, rfl⟩

theorem explicitSlot?_of_marked :
    explicitSlot? (keyedEntries front ++ (.text (marker.mark word), value) :: keyedEntries back) =
      none := by
  have marked : TextKeys ((.text (marker.mark word), value) :: keyedEntries back) :=
    List.forall_mem_cons.mpr ⟨⟨_, rfl⟩, textKeys_keyedEntries back⟩
  exact explicitSlot?_eq_none ((textKeys_keyedEntries front).append marked).isNull

/-- A marked key among attributes is the name slot. -/
theorem nameSlot_of_marked
    (plain : ∀ entry ∈ front ++ back, marker.unmark? entry.1 = none) :
    nameSlot marker (keyedEntries front ++ (.text (marker.mark word), value) :: keyedEntries back) =
      .marked word value := by
  obtain ⟨plainFront, plainBack⟩ := List.forall_mem_append.mp plain
  have noCompact : compactEntries
      (keyedEntries front ++ (.text (marker.mark word), value) :: keyedEntries back) = [] := by
    rw [compactEntries_eq_selected, selected_append, selected_cons_of_none rfl,
      ← compactEntries_eq_selected, ← compactEntries_eq_selected, compactEntries_keyedEntries,
      compactEntries_keyedEntries]
    rfl
  have only : markedEntries marker
      (keyedEntries front ++ (.text (marker.mark word), value) :: keyedEntries back) =
      [(word, value)] := by
    have isWord : markedWord? marker (.text (marker.mark word)) = some word :=
      marker.unmark?_mark word
    rw [markedEntries_eq_selected, selected_append, selected_cons_of_some isWord,
      ← markedEntries_eq_selected, ← markedEntries_eq_selected,
      markedEntries_keyedEntries plainFront, markedEntries_keyedEntries plainBack]
    rfl
  unfold nameSlot
  rw [explicitSlot?_of_marked, noCompact, only]

/-- A marked key is no attribute. -/
theorem attributesOf_of_marked
    (plain : ∀ entry ∈ front ++ back, marker.unmark? entry.1 = none) :
    attributesOf marker
      (keyedEntries front ++ (.text (marker.mark word), value) :: keyedEntries back) =
      front ++ back := by
  obtain ⟨plainFront, plainBack⟩ := List.forall_mem_append.mp plain
  have noKey : attributeKey? marker (.text (marker.mark word)) = none := by
    simp [attributeKey?, Value.text?]
  rw [attributesOf_eq_selected, selected_append, selected_cons_of_none noKey,
    ← attributesOf_eq_selected, ← attributesOf_eq_selected, attributesOf_keyedEntries plainFront,
    attributesOf_keyedEntries plainBack]

/-- A name selects a kind exactly if it is the marker and a word for that kind. -/
theorem specialKind?_text_iff {kind : SpecialKind} :
    specialKind? marker (.text word) = some kind ↔
      ∃ inner, word = marker.mark inner ∧ SpecialKind.ofWord? inner = some kind := by
  simp only [specialKind?, markedWord?, Value.text?, Option.bind_some, Option.bind_eq_some_iff,
    Marker.unmark?_eq_some_iff]

/-- A word for a name gives an element unless it is the marker and a word for a kind. -/
theorem ofNamed_free_iff (children : List Value) (attributes : RawAttributes) :
    Spec.ofNamed marker (.text word) children attributes =
        .element (.text word) attributes children ↔
      ∀ inner, word = marker.mark inner → SpecialKind.ofWord? inner = none := by
  constructor
  · rintro isElement inner rfl
    unfold Spec.ofNamed at isElement
    rw [specialKind?_mark] at isElement
    cases isKind : SpecialKind.ofWord? inner with
    | none => rfl
    | some kind =>
        rw [isKind] at isElement
        cases kind <;> cases isElement
  · intro noKind
    have none : specialKind? marker (.text word) = none := by
      refine Option.eq_none_iff_forall_ne_some.mpr fun kind isKind => ?_
      obtain ⟨inner, isMarked, isKind⟩ := specialKind?_text_iff.mp isKind
      rw [noKind inner isMarked] at isKind
      cases isKind
    rw [Spec.ofNamed, none]

end Slot

/-- A map with one marked key, whose word is free, and otherwise attributes, wherever the key stands
among them, is read with the word as its name, the children that the value is and exactly these
attributes.  What is read is an element of that name, unless the word is the marker once more and a
word for a kind. -/
theorem parse_marked (settings : Settings) (path : List String) {word : String}
    (free : IsFreeWord word) (value : Value) {front back : RawAttributes}
    (plain : ∀ entry ∈ front ++ back, settings.marker.unmark? entry.1 = none) :
    (parse settings path (.map (keyedEntries front ++
        (.text (settings.marker.mark word), value) :: keyedEntries back)) = do
      return some (.ofNamed settings.marker (.text word) (← asChildren value) (front ++ back))) ∧
    ∀ children, Spec.ofNamed settings.marker (.text word) children (front ++ back) =
        .element (.text word) (front ++ back) children ↔
      ∀ inner, word = settings.marker.mark inner → SpecialKind.ofWord? inner = none := by
  refine ⟨?_, fun children => ofNamed_free_iff children _⟩
  have slots : nameSlot settings.marker (keyedEntries front ++
      (.text (settings.marker.mark word), value) :: keyedEntries back) = .marked word value :=
    nameSlot_of_marked plain
  have isThere : keyedEntries front ++ (.text (settings.marker.mark word), value) ::
      keyedEntries back ≠ [] := by simp
  have reads : readMarked settings.marker word value = (do
      return (.text word, ← asChildren value)) := by
    unfold readMarked
    rw [free.noElement, free.noKind]
    rfl
  rw [parse_map isThere]
  unfold parseMap
  dsimp only
  rw [absent_of_explicitSlot? explicitSlot?_of_marked, slots, attributesOf_of_marked plain]
  dsimp only
  have counts : (discard (pure true) : Build Unit) = pure () := rfl
  rw [counts, reads]
  simp only [pure_bind, bind_assoc]

/-- A word that is no word for a kind is the name of an element, whatever stands in front of it and
behind it.  One that is the marker and such a word is not. -/
theorem parse_marked_usual :
    IsFreeWord "p" ∧ IsFreeWord "#comment" ∧
    (∀ entry ∈ [("a", Value.int 1)] ++ [("b", .null)], Marker.usual.unmark? entry.1 = none) ∧
    (parse {} rootPath (.map [(.text "a", .int 1), (.text "#p", .list [.text "x"]),
        (.text "b", .null)]) = do
      return some (.ofNamed .usual (.text "p") (← asChildren (.list [.text "x"]))
        [("a", .int 1), ("b", .null)])) ∧
    (∀ children, Spec.ofNamed .usual (.text "#comment") children [("a", .int 1), ("b", .null)] ≠
      .element (.text "#comment") [("a", .int 1), ("b", .null)] children) := by
  have free : IsFreeWord "p" := ⟨by decide, by decide⟩
  have free' : IsFreeWord "#comment" := ⟨by decide, by decide⟩
  have plain : ∀ entry ∈ [("a", Value.int 1)] ++ [("b", .null)],
      Marker.usual.unmark? entry.1 = none :=
    List.forall_mem_cons.mpr ⟨rfl, List.forall_mem_singleton.mpr rfl⟩
  obtain ⟨reads, -⟩ := parse_marked {} rootPath free (.list [.text "x"]) plain
  obtain ⟨-, isElement_iff⟩ := parse_marked {} rootPath free' .null plain
  refine ⟨free, free', plain, reads, fun children isElement => ?_⟩
  have noKind := (isElement_iff children).mp isElement "comment" rfl
  cases noKind

end MarkupSpec
