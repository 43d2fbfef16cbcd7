import MarkupSpec.Proofs.Position.Twins

/-!
# Where a doctype comes

A document never fails to take a doctype, and no row changes but its own
(`seats_placeDoctype`).  The row that it has then depends on its row and on the kinds of its
children only (`Forest.seating`), so that twins stay twins when a doctype is given to the
same document in both (`Pairing.Twins.seated`).
-/

namespace MarkupSpec

open Forest Edit

/-! ## In one forest -/

/-- The row of a document that takes a doctype: in the place of the one it has, else in front
of the element, else at the end. -/
def Forest.seating (forest : Forest) (document doctype : NodeId) : List NodeId :=
  match currentDoctype? forest document with
  | some old => placeInstead doctype old (forest.children document)
  | none =>
      match forest.rootElement? document with
      | some element => placeBefore doctype element (forest.children document)
      | none => forest.children document ++ [doctype]

namespace Edit

variable {forest : Forest} {document node old : NodeId}

theorem fits_of_isDoctype (isDocument : forest.isA Content.isDocument document)
    (isDoctype : forest.isA Content.isDoctype node) : forest.Fits document node := by
  unfold isA at isDocument isDoctype
  cases above : forest.content? document with
  | none => simp [above] at isDocument
  | some content =>
      cases below : forest.content? node with
      | none => simp [below] at isDoctype
      | some inner =>
          rw [above] at isDocument
          rw [below] at isDoctype
          refine ⟨content, inner, above, below, ?_⟩
          cases content with
          | document =>
              cases inner with
              | doctype => rfl
              | _ => cases isDoctype
          | _ => cases isDocument

/-- What is no element is always appended where it fits. -/
theorem appends_of_fits (agrees : forest.Agrees) (fits : forest.Fits document node)
    (noElement : forest.isA Content.isElement node = false) :
    Ensures (appendChild document node) forest
      (fun _ after => Joins document node none forest after) fun _ _ => False := by
  obtain ⟨above, isAbove⟩ := node?_of_lt fits.homeInside
  obtain ⟨below, isBelow⟩ := node?_of_lt fits.lt_size
  rw [appendChild, ensures_bind_look isAbove, fits.isParent_of_node? isAbove, if_neg (by simp),
    ensures_bind_look isBelow, fits.isFragment_of_node? isBelow, Bool.false_and,
    if_neg Bool.false_ne_true]
  refine (ensures_appendOne agrees).mono (fun _ _ joins => joins) fun _ _ failed => ?_
  have isElement := (failed.2 fits).2
  rw [noElement] at isElement
  cases isElement

/-- What is no element is always inserted before another child where it fits. -/
theorem inserts_of_fits (agrees : forest.Agrees) (fits : forest.Fits document node)
    (noElement : forest.isA Content.isElement node = false)
    (among : old ∈ forest.children document) (differ : old ≠ node) :
    Ensures (insertBefore document node (some old)) forest
      (fun _ after => Joins document node (some old) forest after) fun _ _ => False := by
  obtain ⟨below, isBelow⟩ := node?_of_lt fits.lt_size
  rw [insertBefore, ensures_bind_look isBelow, fits.isFragment_of_node? isBelow,
    if_neg Bool.false_ne_true]
  refine (ensures_insertOne agrees _).mono (fun _ _ joins => joins) fun _ _ failed => ?_
  rcases failed.2 fits with ⟨-, isElement⟩ | ⟨other, same, only⟩
  · rw [noElement] at isElement
    cases isElement
  · cases same
    exact differ (only among)

/-- A node always takes the place of another child where it fits. -/
theorem replaces_of_fits (agrees : forest.Agrees) (fits : forest.Fits document node)
    (among : old ∈ forest.children document) (differ : old ≠ node) :
    Ensures (replaceChild document node old) forest
      (fun _ after => Ousts document node old forest after) fun _ _ => False := by
  obtain ⟨below, isBelow⟩ := node?_of_lt fits.lt_size
  rw [replaceChild, ensures_bind_look isBelow, fits.isFragment_of_node? isBelow,
    if_neg Bool.false_ne_true]
  refine (ensures_replaceOne agrees).mono (fun _ after ends => ?_) fun _ _ failed =>
    failed.2 fits among
  rcases ends with ⟨same, -⟩ | ⟨-, ousts⟩
  · exact absurd same.symm differ
  · exact ousts

/-- A document that was told to remember a doctype does so. -/
theorem doctype?_remembering (isDocument : forest.isA Content.isDocument document) :
    (forest.update document (remembering node)).doctype? document = some node := by
  obtain ⟨found, isFound⟩ := node?_of_lt (lt_size_of_isA isDocument)
  rw [isA_of_node? isFound] at isDocument
  obtain ⟨version, old, isContent⟩ : ∃ version old, found.content = .document version old := by
    cases kind : found.content with
    | document version old => exact ⟨version, old, rfl⟩
    | _ => simp [kind, Content.isDocument] at isDocument
  rw [doctype?, content?, node?_update, if_pos rfl, isFound, Option.map_some, Option.map_some,
    remembering_content node found isContent]

/-- A new doctype gets its seat. -/
theorem rows_placeDoctype (agrees : forest.Agrees)
    (isDocument : forest.isA Content.isDocument document)
    (isDoctype : forest.isA Content.isDoctype node) (top : forest.parent? node = none) :
    Ensures (placeDoctype document node) forest
      (fun _ after => after.children document = forest.seating document node ∧
        node ∈ after.children document ∧ after.doctype? document = some node)
      fun _ _ => False := by
  have fits := fits_of_isDoctype isDocument isDoctype
  have noElement : forest.isA Content.isElement node = false :=
    isA_of_isA Content.isElement_of_isDoctype isDoctype
  have movable : forest.Movable node := by
    intro home there
    rw [top] at there
    cases there
  have differ {id : NodeId} (among : id ∈ forest.children document) : id ≠ node := by
    rintro rfl
    rw [agrees.parent document id among] at top
    cases top
  have notFront {front back : List NodeId} {mark : NodeId}
      (split : forest.children document = front ++ mark :: back) : mark ∉ front := fun inFront =>
    (List.nodup_append.mp (split ▸ agrees.nodup document)).2.2 _ inFront _ List.mem_cons_self rfl
  have finish {step : Edit Unit} {row : List NodeId}
      (places : Ensures step forest
        (fun _ middle => middle.isA Content.isDocument document ∧
          middle.children document = row ∧ node ∈ row) fun _ _ => False) :
      Ensures (step >>= fun _ => change document (remembering node)) forest
        (fun _ after => after.children document = row ∧ node ∈ after.children document ∧
          after.doctype? document = some node) fun _ _ => False := by
    rw [MarkupSpec.ensures_bind]
    refine places.mono (fun _ middle ends => ?_) fun _ _ failed => failed
    obtain ⟨isDocument, isRow, among⟩ := ends
    have row' : (middle.update document (remembering node)).children document = row := by
      rw [children_update (remembering_children node), isRow]
    rw [change, ensures_modify]
    exact ⟨row', row'.symm ▸ among, doctype?_remembering isDocument⟩
  have stays {middle : Forest} (content : ∀ id, middle.content? id = forest.content? id) :
      middle.isA Content.isDocument document := by
    rw [isA, content]
    exact isDocument
  rw [placeDoctype, MarkupSpec.ensures_bind, ensures_get]
  dsimp only
  split
  · rename_i old isOld
    have among := ((currentDoctype?_eq_some agrees).mp isOld).2
    refine finish ((replaces_of_fits agrees fits among (differ among)).mono
      (fun _ middle ousts => ?_) fun _ _ failed => failed)
    obtain ⟨front, back, split, row⟩ := ousts.row_home movable isDocument
    have seat : forest.seating document node = front ++ node :: back := by
      rw [Forest.seating, isOld, split]
      exact placeInstead_append (notFront split)
    rw [seat]
    exact ⟨stays ousts.content, row, by simp⟩
  · rename_i noDoctype
    split
    · rename_i element isRoot
      have among := List.mem_of_find?_eq_some isRoot
      refine finish ((inserts_of_fits agrees fits noElement among (differ among)).mono
        (fun _ middle joins => ?_) fun _ _ failed => failed)
      obtain ⟨front, back, isMark, split, row⟩ := joins.row_home movable isDocument
      obtain ⟨rest, rfl⟩ := List.head?_eq_some_iff.mp isMark
      have seat : forest.seating document node = front ++ node :: element :: rest := by
        rw [Forest.seating, noDoctype, isRoot, split]
        exact placeBefore_append (notFront split)
      rw [seat]
      exact ⟨stays joins.content, row, by simp⟩
    · rename_i noRoot
      refine finish ((appends_of_fits agrees fits noElement).mono (fun _ middle joins => ?_)
        fun _ _ failed => failed)
      obtain ⟨front, back, isLast, split, row⟩ := joins.row_home movable isDocument
      obtain rfl := List.head?_eq_none_iff.mp isLast
      have seat : forest.seating document node = front ++ [node] := by
        rw [Forest.seating, noDoctype, noRoot, split, List.append_nil]
      rw [seat]
      exact ⟨stays joins.content, row, by simp⟩

/-- A document takes a new doctype in its seat, and leaves all other rows alone. -/
theorem seats_placeDoctype (intact : Intact {} forest)
    (isDocument : forest.isA Content.isDocument document)
    (isDoctype : forest.isA Content.isDoctype node) (top : forest.parent? node = none)
    (lower : document < node) :
    Ensures (placeDoctype document node) forest
      (fun _ after => after.size = forest.size ∧ Frames (· = document) forest after ∧
        after.children document = forest.seating document node ∧
        currentDoctype? after document = some node) fun _ _ => False := by
  have fits := fits_of_isDoctype isDocument isDoctype
  have noFragment : forest.isA Content.isFragment node = false := fits.isFragment
  have ready : forest.Ready document node :=
    { inside := fits.lt_size, lower, noFragment
      movable := fun home there => by
        rw [top] at there
        cases there }
  have loaded : Loaded (· = document) (· = node) forest :=
    { children := fun id same isFragment => by
        rw [same, noFragment] at isFragment
        cases isFragment
      parent := fun id same parent there => by
        rw [same, top] at there
        cases there }
  have shifts : Ensures (placeDoctype document node) forest
      (fun _ => Shifts (· = document) (· = node) (fun _ => True) forest)
      fun _ => Shifts (· = document) (· = node) (fun _ => True) forest :=
    shifts_placeDoctype rfl rfl fun _ _ => trivial
  refine (((intact_placeDoctype intact (Nat.zero_le _) ready).and shifts).and
    (rows_placeDoctype intact.agrees isDocument isDoctype top)).mono (fun _ after ends => ?_)
    fun _ _ failed => failed.2
  obtain ⟨⟨intact', shifted⟩, row, among, remembers⟩ := ends
  have moves := shifted loaded
  have frames : Frames (· = document) forest after :=
    { intact := intact'
      size := Nat.le_of_eq moves.size.symm
      lasting := fun id _ => moves.content id
      noDocument := fun id beyond => by
        rw [isA, content?_eq_none (moves.size ▸ beyond)]
        rfl
      content := fun id _ other => (moves.rest id other).1
      children := fun id _ other => (moves.rest id other).2 }
  exact ⟨moves.size, frames, row,
    (currentDoctype?_eq_some intact'.agrees).mpr ⟨remembers, among⟩⟩

end Edit

/-! ## In twins -/

section Lists

variable {f : NodeId → NodeId} (injective : Function.Injective f) (new mark : NodeId)

include injective

theorem placeBefore_map (list : List NodeId) :
    placeBefore (f new) (f mark) (list.map f) = (placeBefore new mark list).map f := by
  induction list with
  | nil => rfl
  | cons id rest ih =>
      by_cases here : id = mark
      · simp [placeBefore, here]
      · simp [placeBefore, here, injective.ne here, ih]

theorem placeInstead_map (list : List NodeId) :
    placeInstead (f new) (f mark) (list.map f) = (placeInstead new mark list).map f := by
  induction list with
  | nil => rfl
  | cons id rest ih =>
      by_cases here : id = mark
      · simp [placeInstead, here]
      · simp [placeInstead, here, injective.ne here, ih]

end Lists

namespace Pairing.Twins

variable {pairing : Pairing} {before before' after after' : Forest} {node : NodeId}

/-- The document has twins for elements. -/
theorem rootElement? (twins : pairing.Twins before after)
    (row : after.children pairing.document =
      (before.children pairing.document).map pairing.twin) :
    after.rootElement? pairing.document =
      (before.rootElement? pairing.document).map pairing.twin := by
  unfold Forest.rootElement?
  rw [row, List.find?_map]
  congr 2
  funext id
  exact twins.isA_twin Content.isElement_lasting id

/-- The document seats the same doctype in the same way. -/
theorem seating (twins : pairing.Twins before after) (same : pairing.document' = pairing.document)
    (node : NodeId) : after.seating pairing.document (pairing.twin node) =
      (before.seating pairing.document node).map pairing.twin := by
  obtain ⟨row, current⟩ := twins.documents same
  unfold Forest.seating
  rw [current, twins.rootElement? row, row]
  cases currentDoctype? before pairing.document with
  | some old => exact placeInstead_map pairing.twin_injective node old _
  | none =>
      cases before.rootElement? pairing.document with
      | some element => exact placeBefore_map pairing.twin_injective node element _
      | none => simp

/-- A new doctype gets its seat in both forests. -/
theorem seated (twins : pairing.Twins before after) (new : pairing.forest.size ≤ node)
    (frames : Frames (· = pairing.document) before before')
    (frames' : Frames (· = pairing.document') after after') (size : before'.size = before.size)
    (size' : after'.size = after.size)
    (row : before'.children pairing.document = before.seating pairing.document node)
    (row' : after'.children pairing.document' =
      after.seating pairing.document' (node + pairing.shift))
    (current : currentDoctype? before' pairing.document = some node)
    (current' : currentDoctype? after' pairing.document' = some (node + pairing.shift)) :
    pairing.Twins before' after' := by
  have isDocument := lt_size_of_isA pairing.isDocument
  have isDocument' := lt_size_of_isA pairing.isDocument'
  have apart {id : NodeId} (isNew : pairing.forest.size ≤ id) :
      id ≠ pairing.document ∧ id + pairing.shift ≠ pairing.document' :=
    ⟨Nat.ne_of_gt (Nat.lt_of_lt_of_le isDocument isNew),
      Nat.ne_of_gt (Nat.lt_of_lt_of_le isDocument' (Nat.le_add_right_of_le isNew))⟩
  have none {id : NodeId} (beyond : before.size ≤ id) :
      before'.size ≤ id ∧ after'.size ≤ id + pairing.shift := by
    rw [size, size', twins.size]
    exact ⟨beyond, Nat.add_le_add_right beyond _⟩
  have noHost {forest : Forest} {home document : NodeId} (isHost : forest.IsHost home)
      (isDocument : forest.isA Content.isDocument document) : home ≠ document := by
    rintro rfl
    rw [isHost.isDocument] at isDocument
    cases isDocument
  refine
    { frames := twins.frames.trans frames fun id _ same => .inr same
      frames' := twins.frames'.trans frames' fun id _ same => .inr same
      size := by rw [size, size', twins.size]
      content := fun id isNew => ?_
      children := fun id isNew => ?_
      tops := ?_
      documents := fun same => ?_ }
  · rcases Nat.lt_or_ge id before.size with inside | beyond
    · rw [frames.content id inside (apart isNew).1,
        frames'.content _ (twins.size ▸ Nat.add_lt_add_right inside _) (apart isNew).2]
      exact twins.content id isNew
    · rw [content?_eq_none (none beyond).1, content?_eq_none (none beyond).2]
  · rcases Nat.lt_or_ge id before.size with inside | beyond
    · rw [frames.children id inside (apart isNew).1,
        frames'.children _ (twins.size ▸ Nat.add_lt_add_right inside _) (apart isNew).2]
      exact twins.children id isNew
    · rw [children_eq_nil (none beyond).1, children_eq_nil (none beyond).2]
      rfl
  · have early := pairing.isHost.lt_size
    have early' := pairing.isHost'.lt_size
    rw [frames.children _ (Nat.lt_of_lt_of_le early twins.frames.size)
        (noHost pairing.isHost pairing.isDocument),
      frames'.children _ (Nat.lt_of_lt_of_le early' twins.frames'.size)
        (noHost pairing.isHost' (isDocument_second pairing.isDocument'))]
    exact twins.tops
  · rw [same] at row' current'
    rw [row, row', current, current', ← twin_of_le new, twins.seating same]
    exact ⟨rfl, rfl⟩

end Pairing.Twins

end MarkupSpec
