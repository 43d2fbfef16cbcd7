import MarkupSpec.Placement
import MarkupSpec.Proofs.Run.Ensures

/-!
# What an edit may touch

An edit that gives nodes their place is described by how little it does, however
it ends (`Forest.Moves`): nodes keep their contents, up to the doctype that a
document remembers; a parent link changes only by being dropped or by leading to
a home, a node that things are placed under; and the list of children of a home
gains only nodes that are placed.  A node that is no home keeps its content and
its children.

Placing a fragment places its children, so the nodes that may be placed have to
include these, and the homes include the parents they had (`Forest.Loaded`).  The
relation `Forest.Shifts` carries this condition along, and every edit keeps it.
-/

namespace MarkupSpec

/-- A content without what may change in it, the doctype that a document
remembers. -/
def Content.lasting : Content → Content
  | .document version _ => .document version none
  | content => content

@[simp]
theorem Content.isDocument_lasting (content : Content) :
    content.lasting.isDocument = content.isDocument := by
  cases content <;> rfl

@[simp]
theorem Content.isFragment_lasting (content : Content) :
    content.lasting.isFragment = content.isFragment := by
  cases content <;> rfl

@[simp]
theorem Content.isElement_lasting (content : Content) :
    content.lasting.isElement = content.isElement := by
  cases content <;> rfl

theorem Content.describe_lasting (content : Content) :
    content.lasting.describe = content.describe := by
  cases content <;> rfl

/-- A document that remembers a doctype lasts as it was. -/
theorem lasting_remembering (doctype : NodeId) (node : Node) :
    (Edit.remembering doctype node).content.lasting = node.content.lasting := by
  cases isContent : node.content with
  | document version old =>
      rw [Edit.remembering_content doctype node isContent]
      rfl
  | _ => simp [Edit.remembering, isContent]

/-- A document that forgets a doctype lasts as it was. -/
theorem lasting_forgetting (doctype : NodeId) (node : Node) :
    (Edit.forgetting doctype node).content.lasting = node.content.lasting := by
  cases isContent : node.content with
  | document version old =>
      simp only [Edit.forgetting, isContent]
      split
      · rfl
      · rw [isContent]
  | _ => simp [Edit.forgetting, isContent]

/-- An element has nothing that may change. -/
theorem Content.eq_of_lasting_eq_element {content : Content} {tag : Tag}
    (same : content.lasting = .element tag) : content = .element tag := by
  cases content <;> simp_all [Content.lasting]

/-- What is held is no fragment. -/
theorem Content.isFragment_of_holds {above below : Content} (held : above.holds below = true) :
    below.isFragment = false := by
  cases below with
  | fragment => cases above <;> simp [Content.holds] at held
  | _ => rfl

/-- What is held is no document. -/
theorem Content.isDocument_of_holds {above below : Content} (held : above.holds below = true) :
    below.isDocument = false := by
  cases below with
  | document => cases above <;> simp [Content.holds] at held
  | _ => rfl

/-- What holds other nodes is a document, a fragment or an element. -/
theorem Content.isParent_of_holds {above below : Content} (held : above.holds below = true) :
    above.isParent = true := by
  cases above with
  | document | fragment | element => rfl
  | _ => cases held

/-- What holds other nodes, and is no document and no fragment, is an element. -/
theorem Content.isElement_of_holds {above below : Content} (held : above.holds below = true)
    (noDocument : above.isDocument = false) (noFragment : above.isFragment = false) :
    above.isElement = true := by
  cases above with
  | document => cases noDocument
  | fragment => cases noFragment
  | element => rfl
  | _ => cases below <;> cases held

@[simp]
theorem Content.holds_lasting (above below : Content) :
    above.lasting.holds below.lasting = above.holds below := by
  cases above <;> cases below <;> rfl

namespace Forest

variable {forest : Forest} {changed id : NodeId} {change : Node → Node}

/-! ## Readings -/

theorem node?_eq_none (beyond : forest.size ≤ id) :
    forest.node? id = none := by
  cases there : forest.node? id with
  | none => rfl
  | some node =>
      have inside : id < forest.size := node?_isSome_iff.mp (by simp [there])
      exact absurd inside (Nat.not_lt.mpr beyond)

theorem content?_eq_none (beyond : forest.size ≤ id) :
    forest.content? id = none := by
  simp [content?, node?_eq_none beyond]

theorem parent?_eq_none (beyond : forest.size ≤ id) :
    forest.parent? id = none := by
  simp [parent?, node?_eq_none beyond]

theorem children_eq_nil (beyond : forest.size ≤ id) :
    forest.children id = [] := by
  simp [children, node?_eq_none beyond]

theorem lt_size_of_isA {test : Content → Bool}
    (passes : forest.isA test id) : id < forest.size := by
  rcases Nat.lt_or_ge id forest.size with inside | beyond
  · exact inside
  · rw [isA, content?_eq_none beyond] at passes
    cases passes

theorem lt_size_of_parent? {parent : NodeId}
    (there : forest.parent? id = some parent) : id < forest.size := by
  rcases Nat.lt_or_ge id forest.size with inside | beyond
  · exact inside
  · rw [parent?_eq_none beyond] at there
    cases there

/-! ## Readings after a change -/

theorem content?_update (kept : ∀ node, (change node).content = node.content) :
    (forest.update changed change).content? id = forest.content? id := by
  simp only [content?, node?_update]
  split
  · cases forest.node? id with
    | none => rfl
    | some node => simp [kept]
  · rfl

theorem content?_update_lasting (kept : ∀ node, (change node).content.lasting = node.content.lasting) :
    ((forest.update changed change).content? id).map Content.lasting =
      (forest.content? id).map Content.lasting := by
  simp only [content?, node?_update]
  split
  · cases forest.node? id with
    | none => rfl
    | some node => simp [kept]
  · rfl

theorem parent?_update (kept : ∀ node, (change node).parent = node.parent) :
    (forest.update changed change).parent? id = forest.parent? id := by
  simp only [parent?, node?_update]
  split
  · cases forest.node? id with
    | none => rfl
    | some node => simp [kept]
  · rfl

theorem children_update (kept : ∀ node, (change node).children = node.children) :
    (forest.update changed change).children id = forest.children id := by
  simp only [children, node?_update]
  by_cases here : changed = id
  · cases there : forest.node? id with
    | none => simp
    | some node => simp [here, kept]
  · simp [here]

theorem parent?_update_ne (other : changed ≠ id) :
    (forest.update changed change).parent? id = forest.parent? id := by
  simp [parent?, other]

theorem children_update_ne (other : changed ≠ id) :
    (forest.update changed change).children id = forest.children id := by
  simp [children, other]

theorem parent?_update_self (forest : Forest) {parent : Option NodeId}
    (set : ∀ node, (change node).parent = parent) :
    (forest.update id change).parent? id = forest.parent? id ∨
      (forest.update id change).parent? id = parent := by
  simp only [parent?, node?_update, if_true]
  cases forest.node? id with
  | none => exact .inl rfl
  | some node => exact .inr (by simp [set])

theorem mem_children_update_self {child : NodeId}
    (among : child ∈ (forest.update id change).children id) :
    ∃ node, forest.node? id = some node ∧ child ∈ (change node).children := by
  simp only [children, node?_update, if_true] at among
  cases there : forest.node? id with
  | none => simp [there] at among
  | some node => exact ⟨node, rfl, by simpa [there] using among⟩

theorem children_of_node? {node : Node} (there : forest.node? id = some node) :
    forest.children id = node.children := by
  simp [children, there]

theorem content?_of_node? {node : Node} (there : forest.node? id = some node) :
    forest.content? id = some node.content := by
  simp [content?, there]

theorem parent?_of_node? {node : Node} (there : forest.node? id = some node) :
    forest.parent? id = node.parent := by
  simp [parent?, there]

theorem isA_of_node? {node : Node} {test : Content → Bool} (there : forest.node? id = some node) :
    forest.isA test id = test node.content := by
  simp [isA, content?_of_node? there]

/-! ## Moves -/

/-- What lasts of contents decides what nodes are. -/
theorem isA_of_lasting {before after : Forest} {id id' : NodeId} {test : Content → Bool}
    (same : (after.content? id').map Content.lasting = (before.content? id).map Content.lasting)
    (lasts : ∀ content, test content.lasting = test content) :
    after.isA test id' = before.isA test id := by
  unfold Forest.isA
  cases atEnd : after.content? id' <;> cases atStart : before.content? id <;>
    simp [atEnd, atStart] at same ⊢
  rw [← lasts, same, lasts]

/-- What lasts of contents decides how nodes are described. -/
theorem describe_of_lasting {before after : Forest} {id : NodeId}
    (same : (after.content? id).map Content.lasting = (before.content? id).map Content.lasting) :
    after.describe id = before.describe id := by
  unfold Forest.describe
  cases was : before.content? id with
  | none =>
      rw [was] at same
      rw [Option.map_eq_none_iff.mp same]
  | some old =>
      rw [was] at same
      obtain ⟨content, now, lasts⟩ := Option.map_eq_some_iff.mp same
      rw [now]
      show content.describe = old.describe
      rw [← Content.describe_lasting, lasts, Content.describe_lasting]

/-- What happens to a forest when the nodes of one kind may be placed under some
homes, and those of another kind may lose their place. -/
structure Moves (homes placed dropped : NodeId → Prop) (before after : Forest) : Prop where
  size : after.size = before.size
  content : ∀ id,
    (after.content? id).map Content.lasting = (before.content? id).map Content.lasting
  rest : ∀ id, ¬ homes id →
    after.content? id = before.content? id ∧ after.children id = before.children id
  parent : ∀ id, after.parent? id = before.parent? id ∨
    after.parent? id = none ∧ (placed id ∨ dropped id) ∨
    ∃ home, after.parent? id = some home ∧ homes home ∧ placed id
  children : ∀ id, ∀ child ∈ after.children id,
    child ∈ before.children id ∨ homes id ∧ placed child

namespace Moves

variable {homes placed dropped : NodeId → Prop} {before after : Forest}

theorem refl (forest : Forest) : Moves homes placed dropped forest forest where
  size := rfl
  content _ := rfl
  rest _ _ := ⟨rfl, rfl⟩
  parent _ := .inl rfl
  children _ _ among := .inl among

theorem trans {first second third : Forest} (onFirst : Moves homes placed dropped first second)
    (onSecond : Moves homes placed dropped second third) :
    Moves homes placed dropped first third where
  size := onSecond.size.trans onFirst.size
  content id := (onSecond.content id).trans (onFirst.content id)
  rest id other :=
    ⟨(onSecond.rest id other).1.trans (onFirst.rest id other).1,
      (onSecond.rest id other).2.trans (onFirst.rest id other).2⟩
  parent id := by
    rcases onSecond.parent id with same | moved
    · rw [same]
      exact onFirst.parent id
    · exact .inr moved
  children id child among := by
    rcases onSecond.children id child among with among | gained
    · exact onFirst.children id child among
    · exact .inr gained

theorem isA (moves : Moves homes placed dropped before after) {test : Content → Bool}
    (lasts : ∀ content, test content.lasting = test content) (id : NodeId) :
    after.isA test id = before.isA test id :=
  isA_of_lasting (moves.content id) lasts

theorem isDocument (moves : Moves homes placed dropped before after) (id : NodeId) :
    after.isA Content.isDocument id = before.isA Content.isDocument id :=
  moves.isA Content.isDocument_lasting id

theorem isFragment (moves : Moves homes placed dropped before after) (id : NodeId) :
    after.isA Content.isFragment id = before.isA Content.isFragment id :=
  moves.isA Content.isFragment_lasting id

theorem isElement (moves : Moves homes placed dropped before after) (id : NodeId) :
    after.isA Content.isElement id = before.isA Content.isElement id :=
  moves.isA Content.isElement_lasting id

end Moves

/-- The nodes that may be placed include the children of fragments among them, and
the homes the parents of nodes that may be placed. -/
structure Loaded (homes placed : NodeId → Prop) (forest : Forest) : Prop where
  children : ∀ id, placed id → forest.isA Content.isFragment id →
    ∀ child ∈ forest.children id, placed child
  parent : ∀ id, placed id → ∀ parent, forest.parent? id = some parent → homes parent

/-- Moves from a forest where enough may be placed. -/
def Shifts (homes placed dropped : NodeId → Prop) (before after : Forest) : Prop :=
  Loaded homes placed before → Moves homes placed dropped before after

variable {homes placed dropped : NodeId → Prop}

theorem Loaded.later {before after : Forest} (loaded : Loaded homes placed before)
    (moves : Moves homes placed dropped before after) : Loaded homes placed after where
  children id isPlaced fragment child among := by
    rw [moves.isFragment] at fragment
    rcases moves.children id child among with among | ⟨-, gained⟩
    · exact loaded.children id isPlaced fragment child among
    · exact gained
  parent id isPlaced parent there := by
    rcases moves.parent id with same | ⟨gone, -⟩ | ⟨home, here, isHome, -⟩
    · exact loaded.parent id isPlaced parent (same ▸ there)
    · rw [there] at gone
      cases gone
    · rw [there] at here
      cases here
      exact isHome

theorem shifts : Follows (Shifts homes placed dropped) where
  refl forest _ := Moves.refl forest
  trans onFirst onSecond loaded := by
    have moves := onFirst loaded
    exact moves.trans (onSecond (loaded.later moves))

end Forest

/-! ## Edits -/

namespace Edit

open Forest

variable {homes placed dropped : NodeId → Prop} {α β : Type}

/-- An edit that only places and drops. -/
abbrev ShiftsOnly (homes placed dropped : NodeId → Prop) (step : Edit α) : Prop :=
  Keeps (Shifts homes placed dropped) step

theorem ensures_look {id : NodeId} {forest : Forest} {done : Node → Forest → Prop}
    {failed : EditError → Forest → Prop} :
    Ensures (look id) forest done failed ↔
      (∀ node, forest.node? id = some node → done node forest) ∧
        (forest.node? id = none → failed .noSuchOperation forest) := by
  rw [look, ensures_bind, ensures_get]
  cases forest.node? id with
  | none => simp
  | some node => simp

/-- Checking for a document changes nothing. -/
theorem ensures_checkDocument {document : NodeId} {forest : Forest} {done : Unit → Forest → Prop}
    {failed : EditError → Forest → Prop} :
    Ensures (checkDocument document) forest done failed ↔
      (forest.isA Content.isDocument document → done () forest) ∧
      (forest.isA Content.isDocument document = false → failed .noSuchOperation forest) := by
  rw [checkDocument, ensures_bind, ensures_look]
  cases there : forest.node? document with
  | none => simp [isA, content?, there]
  | some node =>
      have same : forest.isA Content.isDocument document = node.content.isDocument :=
        isA_of_node? there
      cases kind : node.content.isDocument with
      | true => simp [same, kind]
      | false => simp [same, kind]

theorem ShiftsOnly.pure (result : α) :
    ShiftsOnly homes placed dropped (Pure.pure result : Edit α) :=
  Keeps.pure shifts result

theorem ShiftsOnly.throw (cause : EditError) :
    ShiftsOnly homes placed dropped (throw cause : Edit α) :=
  Keeps.throw shifts cause

theorem ShiftsOnly.bind {first : Edit α} {next : α → Edit β}
    (onFirst : ShiftsOnly homes placed dropped first)
    (onNext : ∀ result, ShiftsOnly homes placed dropped (next result)) :
    ShiftsOnly homes placed dropped (first >>= next) :=
  Keeps.bind shifts onFirst onNext

theorem ShiftsOnly.change {id : NodeId} {step : Node → Node}
    (moves : ∀ forest, Moves homes placed dropped forest (forest.update id step)) :
    ShiftsOnly homes placed dropped (change id step) :=
  Keeps.modify fun forest _ => moves forest

theorem shiftsOnly_look (id : NodeId) : ShiftsOnly homes placed dropped (look id) := by
  intro forest
  rw [ensures_look]
  exact ⟨fun _ _ => shifts.refl forest, fun _ => shifts.refl forest⟩

/-- A change that leaves content, parent and children alone moves nothing. -/
theorem moves_update {forest : Forest} {id : NodeId} {step : Node → Node}
    (content : ∀ node, (step node).content = node.content)
    (parent : ∀ node, (step node).parent = node.parent)
    (children : ∀ node, (step node).children = node.children) :
    Moves homes placed dropped forest (forest.update id step) where
  size := size_update ..
  content other := by rw [content?_update content]
  rest _ _ := ⟨content?_update content, children_update children⟩
  parent _ := .inl (parent?_update parent)
  children _ _ among := .inl (by rwa [children_update children] at among)

/-- A home may change in what does not last. -/
theorem moves_recall {forest : Forest} {id : NodeId} {step : Node → Node} (isHome : homes id)
    (content : ∀ node, (step node).content.lasting = node.content.lasting)
    (parent : ∀ node, (step node).parent = node.parent)
    (children : ∀ node, (step node).children = node.children) :
    Moves homes placed dropped forest (forest.update id step) where
  size := size_update ..
  content _ := content?_update_lasting content
  rest other noHome := by
    have differ : id ≠ other := by
      rintro rfl
      exact noHome isHome
    exact ⟨by simp [content?, differ], children_update_ne differ⟩
  parent _ := .inl (parent?_update parent)
  children _ _ among := .inl (by rwa [children_update children] at among)

theorem shiftsOnly_setNext (id : NodeId) (next : Option NodeId) :
    ShiftsOnly homes placed dropped (setNext id next) :=
  .change fun _ => moves_update (fun _ => rfl) (fun _ => rfl) fun _ => rfl

theorem shiftsOnly_setPrevious (id : NodeId) (previous : Option NodeId) :
    ShiftsOnly homes placed dropped (setPrevious id previous) :=
  .change fun _ => moves_update (fun _ => rfl) (fun _ => rfl) fun _ => rfl

theorem shiftsOnly_onSome {step : NodeId → Edit Unit}
    (each : ∀ id, ShiftsOnly homes placed dropped (step id)) (id : Option NodeId) :
    ShiftsOnly homes placed dropped (onSome id step) := by
  cases id with
  | none => exact .pure _
  | some id => exact each id

/-- Dropping a parent link of a node that may lose its place. -/
theorem moves_drop {forest : Forest} {id : NodeId} {step : Node → Node}
    (content : ∀ node, (step node).content = node.content)
    (parent : ∀ node, (step node).parent = none)
    (children : ∀ node, (step node).children = node.children) (may : placed id ∨ dropped id) :
    Moves homes placed dropped forest (forest.update id step) where
  size := size_update ..
  content other := by rw [content?_update content]
  rest _ _ := ⟨content?_update content, children_update children⟩
  parent other := by
    by_cases here : id = other
    · subst here
      rcases parent?_update_self forest parent with same | gone
      · exact .inl same
      · exact .inr (.inl ⟨gone, may⟩)
    · exact .inl (parent?_update_ne here)
  children _ _ among := .inl (by rwa [children_update children] at among)

/-- Setting the parent link of a node that may be placed. -/
theorem moves_place {forest : Forest} {id home : NodeId} {step : Node → Node}
    (isHome : homes home)
    (content : ∀ node, (step node).content = node.content)
    (parent : ∀ node, (step node).parent = some home)
    (children : ∀ node, (step node).children = node.children) (may : placed id) :
    Moves homes placed dropped forest (forest.update id step) where
  size := size_update ..
  content other := by rw [content?_update content]
  rest _ _ := ⟨content?_update content, children_update children⟩
  parent other := by
    by_cases here : id = other
    · subst here
      rcases parent?_update_self forest parent with same | there
      · exact .inl same
      · exact .inr (.inr ⟨home, there, isHome, may⟩)
    · exact .inl (parent?_update_ne here)
  children _ _ among := .inl (by rwa [children_update children] at among)

/-- Losing members of the list of children of a home, or gaining placed ones. -/
theorem moves_relist {forest : Forest} {id : NodeId} {step : Node → Node} (isHome : homes id)
    (content : ∀ node, (step node).content = node.content)
    (parent : ∀ node, (step node).parent = node.parent)
    (children : ∀ node, forest.node? id = some node → ∀ child ∈ (step node).children,
      child ∈ node.children ∨ placed child) :
    Moves homes placed dropped forest (forest.update id step) where
  size := size_update ..
  content other := by rw [content?_update content]
  rest other noHome := by
    have differ : id ≠ other := by
      rintro rfl
      exact noHome isHome
    exact ⟨content?_update content, children_update_ne differ⟩
  parent _ := .inl (parent?_update parent)
  children other child among := by
    by_cases here : id = other
    · subst here
      obtain ⟨node, there, among⟩ := mem_children_update_self among
      rw [children_of_node? there]
      rcases children node there child among with old | new
      · exact .inl old
      · exact .inr ⟨isHome, new⟩
    · rw [children_update_ne here] at among
      exact .inl among

theorem shiftsOnly_closeGap (id : NodeId) : ShiftsOnly homes placed dropped (closeGap id) :=
  .bind (shiftsOnly_look id) fun _ =>
    .bind (shiftsOnly_onSome (fun _ => shiftsOnly_setPrevious _ _) _) fun _ =>
      shiftsOnly_onSome (fun _ => shiftsOnly_setNext _ _) _

theorem shiftsOnly_unlink {parent child : NodeId} (isHome : homes parent)
    (may : placed child ∨ dropped child) :
    ShiftsOnly homes placed dropped (unlink parent child) := by
  refine .bind (.change fun forest => ?_) fun _ => .change fun forest => ?_
  · exact moves_relist isHome (fun _ => rfl) (fun _ => rfl)
      fun _ _ _ among => .inl (List.mem_of_mem_erase among)
  · exact moves_drop (fun _ => rfl) (fun _ => rfl) (fun _ => rfl) may

theorem shiftsOnly_removeClosing {parent child : NodeId} (isHome : homes parent)
    (may : placed child ∨ dropped child) :
    ShiftsOnly homes placed dropped (removeClosing parent child) := by
  refine .bind (shiftsOnly_look parent) fun node => ?_
  split
  · exact .bind (shiftsOnly_closeGap child) fun _ => shiftsOnly_unlink isHome may
  · exact .throw _

theorem shiftsOnly_release {parent child : NodeId} (isHome : homes parent)
    (may : placed child ∨ dropped child) :
    ShiftsOnly homes placed dropped (release parent child) := by
  refine .bind (shiftsOnly_look parent) fun node => ?_
  split
  · split
    · exact shiftsOnly_unlink isHome may
    · exact .throw _
  · exact shiftsOnly_removeClosing isHome may

/-- A node that may be placed is taken out of a home. -/
theorem shiftsOnly_detach {child : NodeId} (may : placed child) :
    ShiftsOnly homes placed dropped (detach child) := by
  intro forest
  rw [detach, ensures_bind, ensures_look]
  refine ⟨fun node there => ?_, fun _ => shifts.refl forest⟩
  refine ensures_assuming.mpr fun loaded => ensures_assuming.mp ?_ loaded
  cases parented : node.parent with
  | none => exact ShiftsOnly.pure _ forest
  | some parent =>
      have isHome := loaded.parent child may parent ((parent?_of_node? there).trans parented)
      exact shiftsOnly_release isHome (.inl may) forest

theorem shiftsOnly_checkKind (parent child : NodeId) :
    ShiftsOnly homes placed dropped (checkKind parent child) := by
  refine .bind (shiftsOnly_look parent) fun above => .bind (shiftsOnly_look child) fun below => ?_
  split
  · exact .pure _
  · exact .throw _

theorem shiftsOnly_checkDocument (document : NodeId) :
    ShiftsOnly homes placed dropped (checkDocument document) := by
  refine .bind (shiftsOnly_look document) fun node => ?_
  split
  · exact .pure _
  · exact .throw _

theorem shiftsOnly_checkRoot (parent child : NodeId) :
    ShiftsOnly homes placed dropped (checkRoot parent child) := by
  refine .bind (Keeps.get shifts) fun forest => ?_
  split
  · exact .throw _
  · exact .pure _

theorem shiftsOnly_linkLast {home child : NodeId} (isHome : homes home) (may : placed child) :
    ShiftsOnly homes placed dropped (linkLast home child) := by
  refine .bind (shiftsOnly_look home) fun node => .bind (shiftsOnly_onSome (fun last => ?_) _)
    fun _ => .bind (.change fun forest => ?_) fun _ => .change fun forest => ?_
  · exact .bind (shiftsOnly_setPrevious _ _) fun _ => shiftsOnly_setNext _ _
  · refine moves_relist isHome (fun _ => rfl) (fun _ => rfl) fun node _ other among => ?_
    rcases List.mem_append.mp among with old | new
    · exact .inl old
    · exact .inr (List.mem_singleton.mp new ▸ may)
  · exact moves_place isHome (fun _ => rfl) (fun _ => rfl) (fun _ => rfl) may

theorem shiftsOnly_appendOne {home child : NodeId} (isHome : homes home) (may : placed child) :
    ShiftsOnly homes placed dropped (appendOne home child) :=
  .bind (shiftsOnly_checkKind home child) fun _ => .bind (shiftsOnly_detach may) fun _ =>
    .bind (shiftsOnly_checkRoot home child) fun _ => shiftsOnly_linkLast isHome may

theorem shiftsOnly_refuseChildren (content : Content) :
    ShiftsOnly homes placed dropped (refuseChildren content) := by
  unfold refuseChildren
  split
  · exact .throw _
  · exact .throw _

theorem ShiftsOnly.forM {members : List NodeId} {step : NodeId → Edit Unit}
    (each : ∀ member ∈ members, ShiftsOnly homes placed dropped (step member)) :
    ShiftsOnly homes placed dropped (members.forM step) :=
  Keeps.forM shifts each

/-- Whatever is done with the children of a placed fragment may count on them
being placed. -/
theorem ShiftsOnly.bind_look {id : NodeId} {next : Node → Edit α} (may : placed id)
    (onNext : ∀ node,
      (node.content.isFragment = true → ∀ child ∈ node.children, placed child) →
      ShiftsOnly homes placed dropped (next node)) :
    ShiftsOnly homes placed dropped (look id >>= next) := by
  intro forest
  rw [ensures_bind, ensures_look]
  refine ⟨fun node there => ?_, fun _ => shifts.refl forest⟩
  refine ensures_assuming.mpr fun loaded => ensures_assuming.mp (onNext node ?_ forest) loaded
  intro fragment child among
  refine loaded.children id may ?_ child ?_
  · rw [isA_of_node? there]
    exact fragment
  · rw [children_of_node? there]
    exact among

theorem shiftsOnly_appendChild {home child : NodeId} (isHome : homes home) (may : placed child) :
    ShiftsOnly homes placed dropped (appendChild home child) := by
  refine .bind (shiftsOnly_look home) fun above => ?_
  split
  · exact shiftsOnly_refuseChildren _
  · refine .bind_look may fun below load => ?_
    split
    · rename_i fragment
      simp only [Bool.and_eq_true] at fragment
      exact .forM fun member among => shiftsOnly_appendOne isHome (load fragment.1 member among)
    · exact shiftsOnly_appendOne isHome may

theorem mem_of_mem_placeBefore {new mark id : NodeId} {ids : List NodeId}
    (among : id ∈ placeBefore new mark ids) : id ∈ ids ∨ id = new := by
  induction ids with
  | nil => simp [placeBefore] at among
  | cons first rest ih =>
      unfold placeBefore at among
      split at among
      · grind
      · grind

theorem mem_of_mem_placeInstead {new mark id : NodeId} {ids : List NodeId}
    (among : id ∈ placeInstead new mark ids) : id ∈ ids ∨ id = new := by
  induction ids with
  | nil => simp [placeInstead] at among
  | cons first rest ih =>
      unfold placeInstead at among
      split at among
      · grind
      · grind

theorem shiftsOnly_linkBefore {home child : NodeId} (isHome : homes home)
    (may : placed child) (mark : NodeId) :
    ShiftsOnly homes placed dropped (linkBefore home child mark) := by
  intro forest
  rw [linkBefore, ensures_bind, ensures_look]
  refine ⟨fun node there => ?_, fun _ => shifts.refl forest⟩
  have relists : Shifts homes placed dropped forest
      (forest.update home ({ · with children := placeBefore child mark node.children })) := by
    refine fun _ => moves_relist isHome (fun _ => rfl) (fun _ => rfl)
      fun node' there' other among => ?_
    rw [there] at there'
    cases there'
    rcases mem_of_mem_placeBefore among with old | new
    · exact .inl old
    · exact .inr (new ▸ may)
  have links : ShiftsOnly homes placed dropped (do
      setNext child (some mark)
      setPrevious mark (some child)
      let before := inFrontOf? mark node.children
      onSome before (setNext · (some child))
      setPrevious child before
      change child ({ · with parent := some home })) :=
    .bind (shiftsOnly_setNext _ _) fun _ => .bind (shiftsOnly_setPrevious _ _) fun _ =>
      .bind (shiftsOnly_onSome (fun _ => shiftsOnly_setNext _ _) _) fun _ =>
        .bind (shiftsOnly_setPrevious _ _) fun _ =>
          .change fun _ => moves_place isHome (fun _ => rfl) (fun _ => rfl) (fun _ => rfl) may
  rw [ensures_bind, change, ensures_modify]
  exact (links _).mono (fun _ _ later => shifts.trans relists later)
    fun _ _ later => shifts.trans relists later

theorem shiftsOnly_insertOne {home child : NodeId} (isHome : homes home)
    (may : placed child) (mark : Option NodeId) :
    ShiftsOnly homes placed dropped (insertOne home child mark) := by
  refine .bind (shiftsOnly_checkKind home child) fun _ => .bind (shiftsOnly_detach may) fun _ => ?_
  cases mark with
  | none => exact shiftsOnly_appendChild isHome may
  | some mark =>
      refine .bind (shiftsOnly_look home) fun node => ?_
      split
      · exact shiftsOnly_linkBefore isHome may mark
      · exact .throw _

theorem shiftsOnly_insertBefore {home child : NodeId} (isHome : homes home)
    (may : placed child) (mark : Option NodeId) :
    ShiftsOnly homes placed dropped (insertBefore home child mark) := by
  refine .bind_look may fun below load => ?_
  split
  · rename_i fragment
    exact .forM fun member among => shiftsOnly_insertOne isHome (load fragment member among) mark
  · exact shiftsOnly_insertOne isHome may mark

theorem shiftsOnly_linkInstead {home new old : NodeId} (isHome : homes home)
    (may : placed new) (mayGo : dropped old) :
    ShiftsOnly homes placed dropped (linkInstead home new old) := by
  refine .bind (shiftsOnly_look old) fun gone => .bind (.change fun forest => ?_) fun _ =>
    .bind (.change fun forest => ?_) fun _ => .bind (.change fun forest => ?_) fun _ =>
      .bind (shiftsOnly_look new) fun _ =>
        .bind (shiftsOnly_onSome (fun _ => shiftsOnly_setNext _ _) _) fun _ =>
          .bind (shiftsOnly_look new) fun _ =>
            shiftsOnly_onSome (fun _ => shiftsOnly_setPrevious _ _) _
  · refine moves_relist isHome (fun _ => rfl) (fun _ => rfl) fun node _ other among => ?_
    rcases mem_of_mem_placeInstead among with kept | placedNow
    · exact .inl kept
    · exact .inr (placedNow ▸ may)
  · exact moves_place isHome (fun _ => rfl) (fun _ => rfl) (fun _ => rfl) may
  · exact moves_drop (fun _ => rfl) (fun _ => rfl) (fun _ => rfl) (.inr mayGo)

theorem shiftsOnly_replaceOne {home new old : NodeId} (isHome : homes home)
    (may : placed new) (mayGo : dropped old) :
    ShiftsOnly homes placed dropped (replaceOne home new old) := by
  refine .bind (shiftsOnly_checkKind home new) fun _ => ?_
  split
  · exact .pure _
  · refine .bind (shiftsOnly_detach may) fun _ => .bind (shiftsOnly_look home) fun node => ?_
    split
    · exact shiftsOnly_linkInstead isHome may mayGo
    · exact .throw _

theorem shiftsOnly_replaceChild {home new old : NodeId} (isHome : homes home)
    (may : placed new) (mayGo : dropped old) :
    ShiftsOnly homes placed dropped (replaceChild home new old) := by
  refine .bind (shiftsOnly_look new) fun below => ?_
  split
  · exact .bind (shiftsOnly_look old) fun _ => .bind (shiftsOnly_release isHome (.inr mayGo))
      fun _ => shiftsOnly_insertBefore isHome may _
  · exact shiftsOnly_replaceOne isHome may mayGo

/-! ## Edits beside a node -/

theorem ensures_parentOf {id : NodeId} {forest : Forest} {done : NodeId → Forest → Prop}
    {failed : EditError → Forest → Prop} :
    Ensures (parentOf id) forest done failed ↔
      (∀ parent, forest.parent? id = some parent → done parent forest) ∧
        (forest.parent? id = none → failed .noSuchOperation forest) := by
  rw [parentOf, ensures_bind, ensures_look]
  cases there : forest.node? id with
  | none => simp [parent?, there]
  | some node =>
      rw [parent?_of_node? there]
      cases parented : node.parent with
      | none => simp [parented]
      | some parent => simp [parented]

/-- Whatever is done at the parent of a node may count on it being a home. -/
theorem ensures_bind_parentOf {id : NodeId} {next : NodeId → Edit α} {forest : Forest}
    (isHome : ∀ parent, forest.parent? id = some parent → homes parent)
    (onNext : ∀ parent, homes parent → ShiftsOnly homes placed dropped (next parent)) :
    Ensures (parentOf id >>= next) forest (fun _ => Shifts homes placed dropped forest)
      fun _ => Shifts homes placed dropped forest := by
  rw [ensures_bind, ensures_parentOf]
  exact ⟨fun parent there => onNext parent (isHome parent there) forest,
    fun _ => shifts.refl forest⟩

theorem shifts_remove {node : NodeId} {forest : Forest} (mayGo : dropped node)
    (isHome : ∀ parent, forest.parent? node = some parent → homes parent) :
    Ensures (remove node) forest
      (fun _ => Shifts homes placed dropped forest) fun _ => Shifts homes placed dropped forest := by
  rw [remove_eq]
  exact ensures_bind_parentOf isHome fun parent isHome =>
    .bind (shiftsOnly_removeClosing isHome (.inr mayGo)) fun _ =>
      .change fun _ => moves_recall isHome (lasting_forgetting node) (forgetting_parent node)
        (forgetting_children node)

theorem shifts_insertBeforeSibling {node sibling : NodeId} {forest : Forest} (may : placed node)
    (isHome : ∀ parent, forest.parent? sibling = some parent → homes parent) :
    Ensures (insertBeforeSibling node sibling) forest
      (fun _ => Shifts homes placed dropped forest) fun _ => Shifts homes placed dropped forest :=
  ensures_bind_parentOf isHome fun _ isHome => shiftsOnly_insertBefore isHome may _

theorem shifts_insertAfterSibling {node sibling : NodeId} {forest : Forest} (may : placed node)
    (isHome : ∀ parent, forest.parent? sibling = some parent → homes parent) :
    Ensures (insertAfterSibling node sibling) forest
      (fun _ => Shifts homes placed dropped forest) fun _ => Shifts homes placed dropped forest :=
  ensures_bind_parentOf isHome fun _ isHome =>
    .bind (shiftsOnly_look sibling) fun _ => shiftsOnly_insertBefore isHome may _

/-- Nodes are inserted behind one that may be placed itself, so its parent is a
home. -/
theorem shiftsOnly_insertChain :
    ∀ {members : List NodeId} {previous : NodeId}, placed previous →
      (∀ member ∈ members, placed member) →
      ShiftsOnly homes placed dropped (insertChain previous members)
  | [], _, _, _ => .pure _
  | member :: rest, previous, mayPrevious, may => by
      refine .bind (fun forest => ?_) fun _ => shiftsOnly_insertChain (may member (by simp))
        fun other among => may other (by simp [among])
      refine ensures_assuming.mpr fun loaded => ensures_assuming.mp ?_ loaded
      exact shifts_insertAfterSibling (may member (by simp)) (loaded.parent previous mayPrevious)

theorem shifts_replaceSibling {node sibling : NodeId} {forest : Forest} (may : placed node)
    (mayGo : dropped sibling)
    (isHome : ∀ parent, forest.parent? sibling = some parent → homes parent) :
    Ensures (replaceSibling sibling node) forest
      (fun _ => Shifts homes placed dropped forest) fun _ => Shifts homes placed dropped forest := by
  rw [replaceSibling, ensures_bind, ensures_look]
  refine ⟨fun below there => ?_, fun _ => shifts.refl forest⟩
  split
  · rename_i fragment
    cases members : below.children with
    | nil => exact shifts_remove mayGo isHome
    | cons first rest =>
        refine ensures_assuming.mpr fun loaded => ensures_assuming.mp ?_ loaded
        have mayAll : ∀ member ∈ first :: rest, placed member := by
          intro member among
          refine loaded.children node may ?_ member ?_
          · rw [isA_of_node? there]
            exact fragment
          · rw [children_of_node? there, members]
            exact among
        have mayFirst : placed first := mayAll first (by simp)
        exact ensures_bind_parentOf isHome fun parent isHome =>
          .bind (shiftsOnly_replaceChild isHome mayFirst mayGo) fun _ =>
            shiftsOnly_insertChain mayFirst fun other among => mayAll other (by simp [among])
  · exact ensures_bind_parentOf isHome fun parent isHome =>
      shiftsOnly_replaceChild isHome may mayGo

theorem shiftsOnly_setRoot {document element : NodeId} (isHome : homes document)
    (may : placed element) (mayGo : ∀ id, dropped id) :
    ShiftsOnly homes placed dropped (setRoot document element) := by
  refine .bind ?_ fun root => ?_
  · exact .bind (shiftsOnly_checkDocument document) fun _ =>
      .bind (Keeps.get shifts) fun _ => .pure _
  · cases root with
    | none => exact shiftsOnly_appendChild isHome may
    | some old =>
        dsimp only
        split
        · exact .pure _
        · exact shiftsOnly_replaceChild isHome may (mayGo old)

end Edit

/-! ## Giving nodes their place -/

open Forest Edit

variable {homes placed dropped : NodeId → Prop}

/-- Shifts of a forest where the node to go under may, if it is a document, lose
any of its children. -/
def Forest.YieldingShifts (home : NodeId) (homes placed dropped : NodeId → Prop)
    (before after : Forest) : Prop :=
  (before.isA Content.isDocument home → ∀ id, dropped id) →
    Forest.Shifts homes placed dropped before after

theorem yieldingShifts (home : NodeId) :
    Follows (YieldingShifts home homes placed dropped) where
  refl forest _ := shifts.refl forest
  trans onFirst onSecond yields loaded := by
    have moves := onFirst yields loaded
    refine moves.trans (onSecond (fun document => ?_) (loaded.later moves))
    rw [moves.isDocument] at document
    exact yields document

theorem keeps_attachOneUnder {home node : NodeId} (isHome : homes home) (may : placed node) :
    Keeps (YieldingShifts home homes placed dropped) (attachOneUnder home node) := by
  intro forest
  rw [attachOneUnder, ensures_bind, ensures_look]
  refine ⟨fun above there => ?_, fun _ => (yieldingShifts home).refl forest⟩
  rw [ensures_bind, ensures_look]
  refine ⟨fun below _ => ?_, fun _ => (yieldingShifts home).refl forest⟩
  split
  · rename_i both
    simp only [Bool.and_eq_true] at both
    refine ensures_assuming.mpr fun yields => shiftsOnly_setRoot isHome may (yields ?_) forest
    rw [isA_of_node? there]
    exact both.1
  · exact ensures_assuming.mpr fun _ => shiftsOnly_appendChild isHome may forest

theorem keeps_attachUnder {home node : NodeId} (isHome : homes home) (may : placed node) :
    Keeps (YieldingShifts home homes placed dropped) (attachUnder home node) := by
  intro forest
  rw [attachUnder, ensures_bind, ensures_discard, ensures_look]
  refine ⟨fun _ _ => ?_, fun _ => (yieldingShifts home).refl forest⟩
  refine ensures_assuming.mpr fun yields => ?_
  rw [ensures_bind, ensures_look]
  refine ⟨fun below there => ?_, fun _ => shifts.refl forest⟩
  split
  · rename_i fragment
    refine ensures_assuming.mpr fun loaded => ensures_assuming.mp ?_ loaded
    refine ensures_assuming.mp (Keeps.forM (yieldingShifts home) (fun member among => ?_) forest) yields
    refine keeps_attachOneUnder isHome (loaded.children node may ?_ member ?_)
    · rw [isA_of_node? there]
      exact fragment
    · rw [children_of_node? there]
      exact among
  · exact ensures_assuming.mp (keeps_attachOneUnder isHome may forest) yields

/-- The node that things placed at a target come under, if there is one. -/
def Target.home? (target : Target) (forest : Forest) : Option NodeId :=
  if target.isUnder then some target.reference else forest.parent? target.reference

/-- Giving a node its place may place it, and what it holds, under the home of
the target.  A document may lose children by that, and a node that is replaced
its place. -/
theorem shifts_place {target : Target} {node : NodeId} {forest : Forest} (may : placed node)
    (isHome : ∀ home, target.home? forest = some home → homes home)
    (yields : target.isUnder → forest.isA Content.isDocument target.reference → ∀ id, dropped id)
    (mayGo : target.mode = .replacing → dropped target.reference) :
    Ensures (place target node) forest
      (fun _ => Shifts homes placed dropped forest) fun _ => Shifts homes placed dropped forest := by
  obtain ⟨mode, reference⟩ := target
  cases mode with
  | under =>
      exact ensures_assuming.mp (keeps_attachUnder (isHome reference rfl) may forest) (yields rfl)
  | before => exact shifts_insertBeforeSibling may isHome
  | after => exact shifts_insertAfterSibling may isHome
  | replacing => exact shifts_replaceSibling may (mayGo rfl) isHome

end MarkupSpec
