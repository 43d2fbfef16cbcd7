import MarkupSpec.Proofs.Page.Draft
import MarkupSpec.Proofs.Spec.NameSlots

/-!
# Maps among the items of a head

A map that is given for a link, a meta, a style or a script is passed on as a spec if it seems to
have a name slot, and else becomes the attributes of such an element (`headItem_reads`).

Whether it has a name slot is asked once here and once more when the map is read, and the answers
differ for two sorts of maps (`hasNameSlot_agrees_iff`).  A map whose only slot is a key that is
a node is taken for attributes, and loses its name and the node.  A map that has an entry for null
without a name in it, and no other slot, is passed on without a name.
-/

namespace MarkupSpec

open Page

/-! ## Two ways to look for a name slot -/

section Slot

variable {marker : Marker} {entries : Entries}

/-- A map whose only slots are keys that are nodes. -/
structure NamedByNode (marker : Marker) (entries : Entries) : Prop where
  seemsNameless : hasNameSlot marker entries = false
  node : ∃ entry ∈ entries, entry.1.isNode

/-- A map with an entry for null, where that is absent and no other key could be a slot. -/
structure NamedByNothing (marker : Marker) (entries : Entries) : Prop where
  null : ∃ entry ∈ entries, entry.1.isNull
  absent : explicitSlot? entries = none
  plain : ∀ entry ∈ entries, compactKey? entry.1 = none ∧ markedWord? marker entry.1 = none

theorem hasNameSlot_eq_false_iff : hasNameSlot marker entries = false ↔
    ∀ entry ∈ entries, entry.1.isNull = false ∧ entry.1.isTuple = false ∧
      markedWord? marker entry.1 = none := by
  simp [hasNameSlot, and_assoc]

theorem compactKey?_eq_none_iff {key : Value} :
    compactKey? key = none ↔ key.isTuple = false ∧ key.isNode = false := by
  simp [compactKey?]

/-- A map has no name slot if its explicit one is missing and no other key could be one. -/
theorem nameSlot_eq_missing_iff : nameSlot marker entries = .missing ↔
    explicitSlot? entries = none ∧
      ∀ entry ∈ entries, compactKey? entry.1 = none ∧ markedWord? marker entry.1 = none := by
  have plain : (∀ entry ∈ entries, compactKey? entry.1 = none ∧ markedWord? marker entry.1 = none) ↔
      compactEntries entries = [] ∧ markedEntries marker entries = [] := by
    rw [compactEntries_eq_selected, markedEntries_eq_selected, selected_eq_nil_iff,
      selected_eq_nil_iff, ← forall₂_and]
  rw [plain]
  unfold nameSlot
  split <;> simp_all

/-- A node names the map, for all that it seems nameless. -/
theorem NamedByNode.hasSlot (byNode : NamedByNode marker entries) :
    nameSlot marker entries ≠ .missing := by
  intro missing
  obtain ⟨entry, among, isNode⟩ := byNode.node
  obtain ⟨noCompact, -⟩ := (nameSlot_eq_missing_iff.mp missing).2 entry among
  rw [(compactKey?_eq_none_iff.mp noCompact).2] at isNode
  cases isNode

/-- Any entry for null makes a map seem named. -/
theorem NamedByNothing.seemsNamed (byNothing : NamedByNothing marker entries) :
    hasNameSlot marker entries := by
  obtain ⟨entry, among, isNull⟩ := byNothing.null
  by_contra hasNot
  rw [(hasNameSlot_eq_false_iff.mp (by simpa using hasNot) entry among).1] at isNull
  cases isNull

theorem NamedByNothing.missing (byNothing : NamedByNothing marker entries) :
    nameSlot marker entries = .missing :=
  nameSlot_eq_missing_iff.mpr ⟨byNothing.absent, byNothing.plain⟩

/-- Only an absent entry for null makes a map seem named that has no name slot. -/
theorem namedByNothing_of_missing (seems : hasNameSlot marker entries)
    (missing : nameSlot marker entries = .missing) : NamedByNothing marker entries := by
  obtain ⟨noSlot, plain⟩ := nameSlot_eq_missing_iff.mp missing
  refine ⟨?_, noSlot, plain⟩
  by_contra noNull
  have hasNot : hasNameSlot marker entries = false := hasNameSlot_eq_false_iff.mpr
    fun entry among => ⟨by simpa using fun isNull => noNull ⟨entry, among, isNull⟩,
      (compactKey?_eq_none_iff.mp (plain entry among).1).1, (plain entry among).2⟩
  rw [hasNot] at seems
  cases seems

/-- Only a node names a map that seems nameless. -/
theorem namedByNode_of_hasSlot (seemsNameless : hasNameSlot marker entries = false)
    (hasSlot : nameSlot marker entries ≠ .missing) : NamedByNode marker entries := by
  refine ⟨seemsNameless, ?_⟩
  by_contra none
  have plain := hasNameSlot_eq_false_iff.mp seemsNameless
  have noNode (entry : Value × Value) (among : entry ∈ entries) : entry.1.isNode = false := by
    simpa using fun isNode => none ⟨entry, among, isNode⟩
  refine hasSlot (nameSlot_eq_missing_iff.mpr ⟨explicitSlot?_eq_none fun entry among =>
    (plain entry among).1, fun entry among => ⟨?_, (plain entry among).2.2⟩⟩)
  exact compactKey?_eq_none_iff.mpr ⟨(plain entry among).2.1, noNode entry among⟩

/-- The two ways agree but for maps that are named by a node, or by nothing. -/
theorem hasNameSlot_agrees_iff :
    (hasNameSlot marker entries ↔ nameSlot marker entries ≠ .missing) ↔
      ¬ NamedByNode marker entries ∧ ¬ NamedByNothing marker entries := by
  constructor
  · refine fun agree => ⟨fun byNode => ?_, fun byNothing => ?_⟩
    · have seems := agree.mpr byNode.hasSlot
      rw [byNode.seemsNameless] at seems
      cases seems
    · exact agree.mp byNothing.seemsNamed byNothing.missing
  · rintro ⟨notNode, notNothing⟩
    constructor
    · exact fun seems missing => notNothing (namedByNothing_of_missing seems missing)
    · intro hasSlot
      by_contra hasNot
      exact notNode (namedByNode_of_hasSlot (by simpa using hasNot) hasSlot)

end Slot

/-! ## A map put behind a name -/

section Put

variable {marker : Marker} {key value : Value} {content : String} {entries changes : Entries}

theorem sameKey_text_left : Value.sameKey (.text content) key = true ↔ key = .text content := by
  cases key with
  | text other =>
      rw [Value.sameKey_text, beq_iff_eq]
      exact ⟨fun same => same ▸ rfl, fun same => (Value.text.inj same).symm⟩
  | _ => simp [Value.sameKey, Value.asInt?]

/-- To put what is no attribute changes no attribute. -/
theorem attributesOf_put_of_none (noKey : attributeKey? marker key = none) :
    attributesOf marker (Value.put key value entries) = attributesOf marker entries := by
  rw [attributesOf_eq_selected, attributesOf_eq_selected]
  induction entries with
  | nil => exact selected_cons_of_none noKey value []
  | cons entry rest ih =>
      obtain ⟨other, old⟩ := entry
      unfold Value.put
      split
      · rename_i same
        have noOther : attributeKey? marker other = none := by
          cases isKey : attributeKey? marker other with
          | none => rfl
          | some content =>
              obtain rfl := eq_text_of_attributeKey? isKey
              rw [sameKey_text_left.mp same, isKey] at noKey
              cases noKey
        rw [selected_cons_of_none noOther, selected_cons_of_none noOther]
      · cases isKey : attributeKey? marker other with
        | none => rw [selected_cons_of_none isKey, selected_cons_of_none isKey, ih]
        | some found => rw [selected_cons_of_some isKey, selected_cons_of_some isKey, ih]

/-- A new attribute comes behind the others. -/
theorem attributesOf_put_of_some (isKey : attributeKey? marker key = some content)
    (new : ∀ entry ∈ attributesOf marker entries, entry.1 ≠ content) :
    attributesOf marker (Value.put key value entries) =
      attributesOf marker entries ++ [(content, value)] := by
  rw [attributesOf_eq_selected] at new
  rw [attributesOf_eq_selected, attributesOf_eq_selected]
  induction entries with
  | nil => exact selected_cons_of_some isKey value []
  | cons entry rest ih =>
      obtain ⟨other, old⟩ := entry
      unfold Value.put
      split
      · rename_i same
        obtain rfl := eq_text_of_attributeKey? isKey
        obtain rfl := Value.sameKey_text_right.mp same
        rw [selected_cons_of_some isKey] at new
        exact absurd rfl (new _ List.mem_cons_self)
      · cases isOther : attributeKey? marker other with
        | none =>
            rw [selected_cons_of_none isOther] at new
            rw [selected_cons_of_none isOther, selected_cons_of_none isOther, ih new]
        | some found =>
            rw [selected_cons_of_some isOther] at new
            rw [selected_cons_of_some isOther, selected_cons_of_some isOther,
              ih fun entry later => new entry (List.mem_cons_of_mem _ later)]
            rfl

/-- Attributes that are all different are put one behind the other. -/
theorem attributesOf_putAll
    (distinct : ((attributesOf marker entries ++ attributesOf marker changes).map Prod.fst).Nodup) :
    attributesOf marker (Value.putAll changes entries) =
      attributesOf marker entries ++ attributesOf marker changes := by
  induction changes generalizing entries with
  | nil => simp [Value.putAll, attributesOf]
  | cons entry rest ih =>
      obtain ⟨key, value⟩ := entry
      rw [attributesOf_eq_selected marker (_ :: rest)] at distinct ⊢
      unfold Value.putAll
      cases isKey : attributeKey? marker key with
      | none =>
          rw [selected_cons_of_none isKey, ← attributesOf_eq_selected] at distinct ⊢
          have put : attributesOf marker (Value.put key value entries) =
              attributesOf marker entries := attributesOf_put_of_none isKey
          rw [← put] at distinct
          rw [ih distinct, put]
      | some content =>
          rw [selected_cons_of_some isKey, ← attributesOf_eq_selected] at distinct ⊢
          have new : ∀ entry ∈ attributesOf marker entries, entry.1 ≠ content := by
            intro entry among same
            rw [List.map_append, List.nodup_append] at distinct
            exact distinct.2.2 _ (List.mem_map_of_mem among) content (by simp) same
          have put : attributesOf marker (Value.put key value entries) =
              attributesOf marker entries ++ [(content, value)] :=
            attributesOf_put_of_some isKey new
          have whole : attributesOf marker entries ++ (content, value) :: attributesOf marker rest =
              attributesOf marker (Value.put key value entries) ++ attributesOf marker rest := by
            rw [put, List.append_assoc, List.singleton_append]
          rw [whole] at distinct ⊢
          exact ih distinct

end Put

/-! ## Items of the head -/

section Item

variable {settings : Settings} {tag : String} {entries : Entries}

/-- The elements that items of the head stand for. -/
def headTags : List String := ["link", "meta", "style", "script"]

/-- The tags begin with letters, which no marker is. -/
theorem unmark?_of_mem_headTags (marker : Marker) (isTag : tag ∈ headTags) :
    marker.unmark? tag = none ∧ tag ≠ "" := by
  have plain : ∀ tag ∈ headTags, tag.toList.head?.any fun first => !isMarkerChar first := by decide
  have begins := plain tag isTag
  cases chars : tag.toList with
  | nil =>
      rw [chars] at begins
      cases begins
  | cons first rest =>
      have noMarker : isMarkerChar first = false := by simpa [chars] using begins
      refine ⟨marker.unmark?_eq_none chars noMarker, ?_⟩
      rintro rfl
      cases chars

/-- A map that seems to have no name slot becomes an element of the tag, with its entries for
attributes. -/
theorem isReadAs_headItem (isTag : tag ∈ headTags)
    (nameless : hasNameSlot settings.marker entries = false)
    (distinct : ((attributesOf settings.marker entries).map Prod.fst).Nodup) :
    (headItem settings.marker tag (.map entries)).IsReadAs settings
      (.element (.text tag) (attributesOf settings.marker entries) []) := by
  obtain ⟨unmarked, nonempty⟩ := unmark?_of_mem_headTags settings.marker isTag
  have noNull := fun entry among => (hasNameSlot_eq_false_iff.mp nameless entry among).1
  have isMerged : headItem settings.marker tag (.map entries) =
      .map (Value.putAll entries [(.null, .text tag)]) := by
    rw [headItem, nameless, if_neg Bool.false_ne_true, merged]
  have slots : nameSlot settings.marker (Value.putAll entries [(.null, .text tag)]) =
      .explicit (.text tag) := by
    have found : explicitSlot? (Value.putAll entries [(.null, .text tag)]) = some (.text tag) := by
      rw [explicitSlot?, lookup_null_putAll noNull]
      simp [Value.lookup, Value.sameKey, Value.isAbsent, nonempty]
    unfold nameSlot
    rw [found]
  have noAttribute : attributesOf settings.marker [(.null, .text tag)] = [] := rfl
  have attributes : attributesOf settings.marker (Value.putAll entries [(.null, .text tag)]) =
      attributesOf settings.marker entries := by
    rw [attributesOf_putAll (by rwa [noAttribute, List.nil_append]), noAttribute, List.nil_append]
  have isThere : Value.putAll entries [(.null, .text tag)] ≠ [] := by
    intro isEmpty
    rw [isEmpty] at slots
    cases slots
  rw [isMerged]
  refine isReadAs_of_reading ?_
  unfold Value.reading?
  rw [if_neg (by simpa [Value.isAbsent] using isThere)]
  dsimp only
  have named : namedChildren? settings.marker (Value.putAll entries [(.null, .text tag)]) =
      some (.text tag, []) := by
    unfold namedChildren?
    rw [slots]
    rfl
  rw [named, attributes, Option.map_some]
  dsimp only
  rw [Spec.ofNamed, specialKind?_of_plain unmarked]

/-- A map among the items of the head is passed on if it seems to have a name slot, and else read as
an element of the tag, with all its entries under texts for attributes.  That is so for the maps
that have no name slot, and for no others, unless a map is named by a node, or by nothing. -/
theorem headItem_reads (isTag : tag ∈ headTags) (entries : Entries)
    (distinct : ((attributesOf settings.marker entries).map Prod.fst).Nodup) :
    (hasNameSlot settings.marker entries →
      headItem settings.marker tag (.map entries) = .map entries) ∧
    (hasNameSlot settings.marker entries = false →
      (headItem settings.marker tag (.map entries)).IsReadAs settings
        (.element (.text tag) (attributesOf settings.marker entries) []) ∧
      ∀ key value, (.text key, value) ∈ entries →
        (key, value) ∈ attributesOf settings.marker entries) ∧
    ((hasNameSlot settings.marker entries ↔ nameSlot settings.marker entries ≠ .missing) ↔
      ¬ NamedByNode settings.marker entries ∧ ¬ NamedByNothing settings.marker entries) := by
  refine ⟨fun has => by rw [headItem, if_pos has], fun nameless => ?_, hasNameSlot_agrees_iff⟩
  refine ⟨isReadAs_headItem isTag nameless distinct, fun key value among => ?_⟩
  exact mem_attributesOf (hasNameSlot_eq_false_iff.mp nameless _ among).2.2 among

/-- What an item that is named by one node would be read as, if it were passed on. -/
theorem isReadAs_of_namedByNode {key name : Value} (byNode : NamedByNode settings.marker entries)
    (only : compactEntries entries = [(key, name)]) :
    (Value.map entries).IsReadAs settings (.ofNamed settings.marker name (compactChildren key)
      (attributesOf settings.marker entries)) :=
  isReadAs_compact (explicitSlot?_eq_none fun entry among =>
    (hasNameSlot_eq_false_iff.mp byNode.seemsNameless entry among).1) only

end Item

/-- An item that is named by a node is read as a link without name and node, where it would be an
element of that name around the node. -/
theorem headItem_reads_namedByNode :
    "link" ∈ headTags ∧
    ((attributesOf .usual [(.node 0, .text "p"), (.text "id", .text "i")]).map Prod.fst).Nodup ∧
    NamedByNode .usual [(.node 0, .text "p"), (.text "id", .text "i")] ∧
    (headItem .usual "link" (.map [(.node 0, .text "p"), (.text "id", .text "i")])).IsReadAs {}
      (.element (.text "link") [("id", .text "i")] []) ∧
    (Value.map [(.node 0, .text "p"), (.text "id", .text "i")]).IsReadAs {}
      (.element (.text "p") [("id", .text "i")] [.node 0]) := by
  have isTag : "link" ∈ headTags := by decide
  have distinct : ((attributesOf .usual
      [(.node 0, .text "p"), (.text "id", .text "i")]).map Prod.fst).Nodup := by decide
  have byNode : NamedByNode .usual [(.node 0, .text "p"), (.text "id", .text "i")] :=
    ⟨by decide, _, List.mem_cons_self, rfl⟩
  obtain ⟨-, built, -⟩ := @headItem_reads {} "link" isTag _ distinct
  exact ⟨isTag, distinct, byNode, (built byNode.seemsNameless).1,
    @isReadAs_of_namedByNode {} _ _ _ byNode rfl⟩

end MarkupSpec
