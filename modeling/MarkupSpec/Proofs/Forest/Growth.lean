import MarkupSpec.Proofs.Build.ReadOnly
import MarkupSpec.Proofs.Forest.EditFootprint

/-!
# How a build leaves a forest

A build adds nodes and gives them their place.  What was there before lasts
(`Forest.Grows`): contents stay, up to the doctype that a document remembers,
and so do parents, except that a node may lose its place.  Lists of children
gain new nodes only, and no new document appears.

Below a node that is no document only children of documents lose their place,
namely doctypes.  A build under a document or beside a node may
take its place from others, which it is said to *spare*.

Everything is said of both endings of a build.
-/

namespace MarkupSpec

namespace Forest

/-- The nodes that may lose their place: those that are spared, and children of
documents. -/
def Spare (spared : NodeId → Prop) (forest : Forest) (id : NodeId) : Prop :=
  spared id ∨
    ∃ document, forest.parent? id = some document ∧ forest.isA Content.isDocument document

/-- No node is spared. -/
abbrev Nobody : NodeId → Prop := fun _ => False

/-- What lasts of a forest through a build. -/
structure Grows (spared : NodeId → Prop) (before after : Forest) : Prop where
  size : before.size ≤ after.size
  content : ∀ id < before.size,
    (after.content? id).map Content.lasting = (before.content? id).map Content.lasting
  noDocument : ∀ id, before.size ≤ id → after.isA Content.isDocument id = false
  parent : ∀ id < before.size, after.parent? id = before.parent? id ∨
    after.parent? id = none ∧ Spare spared before id
  children : ∀ id, ∀ child ∈ after.children id, child ∈ before.children id ∨ before.size ≤ child

namespace Grows

variable {spared : NodeId → Prop} {before after : Forest}

theorem refl (forest : Forest) : Grows spared forest forest where
  size := Nat.le_refl _
  content _ _ := rfl
  noDocument id beyond := by rw [isA, content?_eq_none beyond]; rfl
  parent _ _ := .inl rfl
  children _ _ among := .inl among

theorem isA_of_lt (grows : Grows spared before after) {test : Content → Bool}
    (lasts : ∀ content, test content.lasting = test content) {id : NodeId}
    (inside : id < before.size) : after.isA test id = before.isA test id :=
  isA_of_lasting (grows.content id inside) lasts

/-- Documents stay documents, and nothing else becomes one. -/
theorem isDocument (grows : Grows spared before after) (id : NodeId) :
    after.isA Content.isDocument id = before.isA Content.isDocument id := by
  rcases Nat.lt_or_ge id before.size with inside | beyond
  · exact grows.isA_of_lt Content.isDocument_lasting inside
  · rw [grows.noDocument id beyond, isA, content?_eq_none beyond]
    rfl

theorem trans {spared' : NodeId → Prop} {first second third : Forest} (onFirst : Grows spared first second)
    (onSecond : Grows spared' second third) (looser : ∀ id, spared' id → spared id) :
    Grows spared first third where
  size := Nat.le_trans onFirst.size onSecond.size
  content id inside := (onSecond.content id (Nat.lt_of_lt_of_le inside onFirst.size)).trans
    (onFirst.content id inside)
  noDocument id beyond := by
    rw [onSecond.isDocument]
    exact onFirst.noDocument id beyond
  parent id inside := by
    rcases onSecond.parent id (Nat.lt_of_lt_of_le inside onFirst.size) with same | ⟨gone, spare⟩
    · rw [same]
      exact onFirst.parent id inside
    · rcases onFirst.parent id inside with same | ⟨-, spare⟩
      · refine .inr ⟨gone, ?_⟩
        rcases spare with isSpared | ⟨document, there, isDocument⟩
        · exact .inl (looser id isSpared)
        · rw [onFirst.isDocument] at isDocument
          exact .inr ⟨document, same ▸ there, isDocument⟩
      · exact .inr ⟨gone, spare⟩
  children id child among := by
    rcases onSecond.children id child among with among | new
    · exact onFirst.children id child among
    · exact .inr (Nat.le_trans onFirst.size new)

theorem mono {spared' : NodeId → Prop} (grows : Grows spared before after) (looser : ∀ id, spared id → spared' id) :
    Grows spared' before after :=
  (refl before).trans grows looser

/-- A node without a parent does not come to have one. -/
theorem parent_none (grows : Grows spared before after) {id : NodeId} (inside : id < before.size)
    (top : before.parent? id = none) : after.parent? id = none := by
  rcases grows.parent id inside with same | ⟨gone, -⟩
  · exact same.trans top
  · exact gone

/-- The children of new nodes are new. -/
theorem new_of_mem_children (grows : Grows spared before after) {id child : NodeId}
    (new : before.size ≤ id) (among : child ∈ after.children id) : before.size ≤ child := by
  rcases grows.children id child among with old | new
  · rw [children_eq_nil new] at old
    cases old
  · exact new

/-- All that is new may be placed, wherever it is. -/
theorem loaded (grows : Grows spared before after) :
    Loaded (fun _ => True) (before.size ≤ ·) after where
  children _ new _ _ among := grows.new_of_mem_children new among
  parent _ _ _ _ := trivial

/-- What was built may be moved further, as long as no other node is placed. -/
theorem moves {homes placed dropped : NodeId → Prop} {final : Forest}
    (grows : Grows spared before after) (moves : Moves homes placed dropped after final)
    (new : ∀ id, placed id → before.size ≤ id)
    (spare : ∀ id < before.size, dropped id → Spare spared before id) : Grows spared before final where
  size := by
    rw [moves.size]
    exact grows.size
  content id inside := (moves.content id).trans (grows.content id inside)
  noDocument id beyond := by
    rw [moves.isDocument]
    exact grows.noDocument id beyond
  parent id inside := by
    have notNew : ¬ placed id := fun isPlaced => absurd inside (Nat.not_lt.mpr (new id isPlaced))
    rcases moves.parent id with same | ⟨gone, isPlaced | isDropped⟩ | ⟨_, _, _, isPlaced⟩
    · rw [same]
      exact grows.parent id inside
    · exact absurd isPlaced notNew
    · exact .inr ⟨gone, spare id inside isDropped⟩
    · exact absurd isPlaced notNew
  children id child among := by
    rcases moves.children id child among with among | ⟨-, isPlaced⟩
    · exact grows.children id child among
    · exact .inr (new child isPlaced)

end Grows

/-- The nodes of a forest and their contents last, wherever they are moved. -/
structure Lasts (before after : Forest) : Prop where
  size : before.size ≤ after.size
  content : ∀ id < before.size,
    (after.content? id).map Content.lasting = (before.content? id).map Content.lasting

theorem Lasts.refl (forest : Forest) : Lasts forest forest := ⟨Nat.le_refl _, fun _ _ => rfl⟩

theorem Lasts.trans {before middle after : Forest} (onFirst : Lasts before middle)
    (onSecond : Lasts middle after) : Lasts before after where
  size := Nat.le_trans onFirst.size onSecond.size
  content id inside := (onSecond.content id (Nat.lt_of_lt_of_le inside onFirst.size)).trans
    (onFirst.content id inside)

/-- A node that is added leaves the others alone. -/
theorem Lasts.add {before forest : Forest} (lasts : Lasts before forest) (node : Node) :
    Lasts before (forest.add node) where
  size := by
    rw [size_add]
    exact Nat.le_succ_of_le lasts.size
  content id inside := by
    have old : id ≠ forest.size := Nat.ne_of_lt (Nat.lt_of_lt_of_le inside lasts.size)
    simp only [content?, node?_add, if_neg old]
    exact lasts.content id inside

theorem Grows.lasts {spared : NodeId → Prop} {before after : Forest}
    (grows : Grows spared before after) : Lasts before after :=
  ⟨grows.size, grows.content⟩

theorem Moves.lasts {homes placed dropped : NodeId → Prop} {before after : Forest}
    (moves : Moves homes placed dropped before after) : Lasts before after :=
  ⟨Nat.le_of_eq moves.size.symm, fun id _ => moves.content id⟩

/-- An element keeps its tag. -/
theorem Lasts.element {before after : Forest} (lasts : Lasts before after) {id : NodeId} {tag : Tag}
    (there : before.content? id = some (.element tag)) :
    after.content? id = some (.element tag) := by
  have inside : id < before.size := by
    rcases Nat.lt_or_ge id before.size with inside | beyond
    · exact inside
    · rw [content?_eq_none beyond] at there
      cases there
  have same := lasts.content id inside
  rw [there] at same
  cases atEnd : after.content? id with
  | none => simp [atEnd] at same
  | some content =>
      rw [atEnd] at same
      rw [Content.eq_of_lasting_eq_element (Option.some.inj same)]

/-! ## Adding a node -/

/-- A new node has content and owner, and no place. -/
theorem grows_add {forest : Forest} {content : Content} {owner : Option NodeId}
    (noDocument : content.isDocument = false) :
    Grows Nobody forest (forest.add { content, owner }) where
  size := by simp
  content id inside := by simp [content?, Nat.ne_of_lt inside]
  noDocument id beyond := by
    by_cases last : id = forest.size
    · simp [isA, content?, last, noDocument]
    · simp [isA, content?, last, node?_eq_none beyond]
  parent id inside := by simp [parent?, Nat.ne_of_lt inside]
  children id child among := by
    by_cases last : id = forest.size
    · simp [children, last] at among
    · exact .inl (by simpa [children, last] using among)

end Forest

open Forest

namespace Edit

/-- Making a node gives it the next number and no place. -/
theorem ensures_create {document : NodeId} {content : Content} {forest : Forest}
    {done : NodeId → Forest → Prop} {failed : EditError → Forest → Prop} :
    Ensures (create document content) forest done failed ↔
      (forest.isA Content.isDocument document →
        done forest.size (forest.add { content, owner := some document })) ∧
      (forest.isA Content.isDocument document = false → failed .noSuchOperation forest) := by
  rw [create, ensures_bind, ensures_checkDocument]
  exact Iff.rfl

/-! ## Setting attributes of a new element -/

/-- What was built may have tags changed, as long as these belong to new
elements. -/
theorem grows_setAttribute {element : NodeId} {namespaceUri : Option String} {name value : String}
    {before forest : Forest} (grew : Grows Nobody before forest) (new : before.size ≤ element) :
    Ensures (setAttribute element namespaceUri name value) forest
      (fun _ => Grows Nobody before) fun _ => Grows Nobody before := by
  have alters (tag : Tag) :
      Grows Nobody before (forest.update element ({ · with content := .element tag })) := by
    refine { size := ?_, content := ?_, noDocument := ?_, parent := ?_, children := ?_ }
    · rw [size_update]
      exact grew.size
    · intro id inside
      have other : element ≠ id := fun same => absurd inside (Nat.not_lt.mpr (same ▸ new))
      simpa [content?, other] using grew.content id inside
    · intro id beyond
      by_cases here : element = id
      · simp only [isA, content?, node?_update, here, if_true]
        cases forest.node? id <;> rfl
      · simpa [isA, content?, here] using grew.noDocument id beyond
    · intro id inside
      rw [parent?_update fun _ => by rfl]
      exact grew.parent id inside
    · intro id child among
      rw [children_update fun _ => by rfl] at among
      exact grew.children id child among
  rw [setAttribute, ensures_bind, ensures_look]
  refine ⟨fun node there => ?_, fun _ => grew⟩
  split
  · rename_i tag isElement
    rw [ensures_bind, change, ensures_modify]
    split
    · exact alters _
    · exact alters _
  · exact grew

/-! ## Copies -/

/-- New nodes may be appended to new nodes. -/
theorem grows_appendChild {parent child : NodeId} {before forest : Forest}
    (grew : Grows Nobody before forest) (newChild : before.size ≤ child) :
    Ensures (appendChild parent child) forest
      (fun _ => Grows Nobody before) fun _ => Grows Nobody before := by
  have loaded : Loaded (fun _ => True) (before.size ≤ ·) forest := grew.loaded
  have later (after : Forest)
      (shifted : Shifts (fun _ => True) (before.size ≤ ·) (fun _ => False) forest after) :
      Grows Nobody before after :=
    grew.moves (shifted loaded) (fun _ new => new) fun _ _ none => none.elim
  exact (shiftsOnly_appendChild trivial newChild forest).mono (fun _ after => later after)
    fun _ after => later after

theorem grows_setAll {element : NodeId} {before : Forest} (new : before.size ≤ element) :
    ∀ (entries : List Attribute.Entry) {forest : Forest}, Grows Nobody before forest →
      Ensures (setAll element entries) forest
        (fun _ => Grows Nobody before) fun _ => Grows Nobody before
  | [], _, grew => grew
  | entry :: rest, _, grew => by
      rw [setAll, ensures_bind]
      exact (grows_setAttribute grew new).mono
        (fun _ _ grew => grows_setAll new rest grew) fun _ _ grew => grew

theorem grows_copyInto {copy : NodeId → Edit NodeId} {parent : NodeId} {before : Forest}
    (copies : ∀ (id : NodeId) {forest : Forest}, Grows Nobody before forest →
      Ensures (copy id) forest
        (fun made after => Grows Nobody before after ∧ made = forest.size)
        fun _ => Grows Nobody before) :
    ∀ (members : List NodeId) {forest : Forest}, Grows Nobody before forest →
      Ensures (copyInto copy parent members) forest
        (fun _ => Grows Nobody before) fun _ => Grows Nobody before
  | [], _, grew => grew
  | child :: rest, forest, grew => by
      rw [copyInto, ensures_bind]
      refine (copies child grew).mono (fun made after ends => ?_) fun _ _ grew => grew
      obtain ⟨grown, rfl⟩ := ends
      rw [ensures_bind]
      exact (grows_appendChild grown grew.size).mono
        (fun _ _ grew => grows_copyInto copies rest grew) fun _ _ grew => grew

/-- A copy takes the next number, and all that is below it is new. -/
theorem grows_copyWithin (document : NodeId) (deep : Bool) {before : Forest} :
    ∀ (depth : Nat) (id : NodeId) {forest : Forest}, Grows Nobody before forest →
      Ensures (copyWithin document deep depth id) forest
        (fun made after => Grows Nobody before after ∧ made = forest.size)
        fun _ => Grows Nobody before
  | 0, _, _, grew => grew
  | depth + 1, id, forest, grew => by
      have makes {content : Content} (noDocument : content.isDocument = false)
          {next : NodeId → Edit NodeId}
          (onNext : ∀ after, Grows Nobody before after →
            Ensures (next forest.size) after
              (fun made after => Grows Nobody before after ∧ made = forest.size)
              fun _ => Grows Nobody before) :
          Ensures (create document content >>= next) forest
            (fun made after => Grows Nobody before after ∧ made = forest.size)
            fun _ => Grows Nobody before := by
        rw [ensures_bind, ensures_create]
        refine ⟨fun _ => onNext _ ?_, fun _ => grew⟩
        exact grew.trans (grows_add noDocument) fun _ none => none
      have below (children : List NodeId) (after : Forest) (grew : Grows Nobody before after) :
          Ensures (do
            if deep then copyInto (copyWithin document deep depth) forest.size children
            pure forest.size : Edit NodeId) after
            (fun made after => Grows Nobody before after ∧ made = forest.size)
            fun _ => Grows Nobody before := by
        split
        · rw [ensures_bind]
          exact (grows_copyInto (grows_copyWithin document deep depth) children grew).mono
            (fun _ _ grew => ⟨grew, rfl⟩) fun _ _ grew => grew
        · exact ⟨grew, rfl⟩
      rw [copyWithin, ensures_bind, ensures_look]
      refine ⟨fun node _ => ?_, fun _ => grew⟩
      dsimp only
      split
      · rename_i tag _
        refine makes rfl fun after grown => ?_
        rw [ensures_bind]
        exact (grows_setAll grew.size _ grown).mono
          (fun _ after grown => below node.children after grown) fun _ _ grown => grown
      · exact makes rfl fun after grown => below node.children after grown
      · exact grew
      · exact grew
      · rename_i content noElement noFragment noDocument noDoctype
        rw [ensures_create]
        refine ⟨fun _ => ⟨grew.trans (grows_add ?_) fun _ none => none, rfl⟩,
          fun _ => grew⟩
        cases kind : node.content with
        | document version doctype => exact (noDocument version doctype kind).elim
        | _ => rfl

theorem grows_copy (document : NodeId) (deep : Bool) (id : NodeId) (forest : Forest) :
    Ensures (copy document deep id) forest
      (fun made after => Grows Nobody forest after ∧ made = forest.size)
      fun _ => Grows Nobody forest := by
  rw [copy, ensures_bind, ensures_checkDocument]
  refine ⟨fun _ => ?_, fun _ => Grows.refl forest⟩
  rw [ensures_bind, ensures_get]
  exact grows_copyWithin document deep _ id (Grows.refl forest)

/-! ## Doctypes -/

/-- That a document remembers another doctype moves nothing. -/
theorem shiftsOnly_remember {homes placed dropped : NodeId → Prop} {document : NodeId}
    (isHome : homes document) (doctype : NodeId) :
    ShiftsOnly homes placed dropped (change document (remembering doctype)) :=
  .change fun _ => moves_recall isHome (lasting_remembering doctype) (remembering_parent doctype)
    (remembering_children doctype)

/-- Giving a doctype its place may take that of a child of the document. -/
theorem shifts_placeDoctype {homes placed dropped : NodeId → Prop} {document doctype : NodeId}
    {forest : Forest} (isHome : homes document) (may : placed doctype)
    (mayGo : ∀ id, forest.parent? id = some document → dropped id) :
    Ensures (placeDoctype document doctype) forest
      (fun _ => Shifts homes placed dropped forest)
      fun _ => Shifts homes placed dropped forest := by
  rw [placeDoctype, ensures_bind, ensures_get]
  dsimp only
  split
  · rename_i old current
    have child : forest.parent? old = some document :=
      beq_iff_eq.mp (Option.filter_eq_some_iff.mp current).2
    exact ShiftsOnly.bind (shiftsOnly_replaceChild isHome may (mayGo old child))
      (fun _ => shiftsOnly_remember isHome doctype) forest
  · split
    · exact ShiftsOnly.bind (shiftsOnly_insertBefore isHome may _)
        (fun _ => shiftsOnly_remember isHome doctype) forest
    · exact ShiftsOnly.bind (shiftsOnly_appendChild isHome may)
        (fun _ => shiftsOnly_remember isHome doctype) forest

/-- A new doctype takes the place of one that is a child of the document, or none
that was there. -/
theorem grows_placeDoctype {document doctype : NodeId} {before forest : Forest}
    (grew : Grows Nobody before forest) (isDocument : forest.isA Content.isDocument document)
    (new : before.size ≤ doctype) :
    Ensures (placeDoctype document doctype) forest
      (fun _ => Grows Nobody before) fun _ => Grows Nobody before := by
  have spare (id : NodeId) (inside : id < before.size) (there : forest.parent? id = some document) :
      Spare Nobody before id := by
    rcases grew.parent id inside with same | ⟨gone, -⟩
    · refine .inr ⟨document, same ▸ there, ?_⟩
      rw [← grew.isDocument]
      exact isDocument
    · rw [there] at gone
      cases gone
  have shifted : Ensures (placeDoctype document doctype) forest
      (fun _ => Shifts (fun _ => True) (before.size ≤ ·) (forest.parent? · = some document) forest)
      fun _ => Shifts (fun _ => True) (before.size ≤ ·) (forest.parent? · = some document) forest :=
    shifts_placeDoctype trivial new fun _ there => there
  exact shifted.mono (fun _ _ shifted => grew.moves (shifted grew.loaded) (fun _ new => new) spare)
    fun _ _ shifted => grew.moves (shifted grew.loaded) (fun _ new => new) spare

end Edit

end MarkupSpec
