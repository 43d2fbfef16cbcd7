import MarkupSpec.Proofs.Build.Course
import MarkupSpec.Proofs.Build.Intact
import MarkupSpec.Proofs.Forest.KeptNodes

/-!
# Steps that keep what was made

A build makes nodes without parts, elements and doctypes, and gives them their places
under a node or beside one.  Each of these steps keeps the nodes that were made before
it (`Forest.Kept`).  A doctype takes the place of another doctype only, and beside a node
none of the nodes that were made loses its place.
-/

namespace MarkupSpec

open Forest Edit Build

@[simp]
theorem Content.isInner_lasting (content : Content) : content.lasting.isInner = content.isInner := by
  cases content <;> rfl

/-- A doctype is not inside of an element. -/
theorem Content.isInner_of_isDoctype {content : Content} (isDoctype : content.isDoctype) :
    content.isInner = false := by
  cases content <;> first | rfl | cases isDoctype

theorem Content.isInner_of_isFragment {content : Content} (isFragment : content.isFragment) :
    content.isInner = false := by
  cases content <;> first | rfl | cases isFragment

theorem Content.isElement_of_isDoctype {content : Content} (isDoctype : content.isDoctype) :
    content.isElement = false := by
  cases content <;> first | rfl | cases isDoctype

theorem Content.isFragment_of_isElement {content : Content} (isElement : content.isElement) :
    content.isFragment = false := by
  cases content <;> first | rfl | cases isElement

theorem Content.isFragment_of_isDoctype {content : Content} (isDoctype : content.isDoctype) :
    content.isFragment = false := by
  cases content <;> first | rfl | cases isDoctype

/-- A node of one kind is not of a kind that excludes it. -/
theorem Forest.isA_of_isA {forest : Forest} {id : NodeId} {test other : Content → Bool}
    (excludes : ∀ {content : Content}, test content → other content = false)
    (passes : forest.isA test id) : forest.isA other id = false := by
  unfold isA at passes ⊢
  cases content : forest.content? id with
  | none => rfl
  | some found =>
      rw [content] at passes
      exact excludes passes

variable {target : Target} {home start node document : NodeId} {pending : List NodeId}
  {row : NodeId → List NodeId} {before after forest : Forest} {world : World}

/-! ## Doctypes -/

namespace Forest.Kept

/-- A document may forget its doctype, or remember another one. -/
theorem remembering {step : Node → Node} (kept : Kept target home start pending row forest)
    (lasts : ∀ found, (step found).content.lasting = found.content.lasting)
    (parents : ∀ found, (step found).parent = found.parent)
    (children : ∀ found, (step found).children = found.children)
    (doctypes : ∀ found version doctype, (step found).content = .document version (some doctype) →
      found.content = .document version (some doctype) ∨ forest.isA Content.isDoctype doctype) :
    Kept target home start pending row (forest.update document step) := by
  have lasting (id : NodeId) : ((forest.update document step).content? id).map Content.lasting =
      (forest.content? id).map Content.lasting := content?_update_lasting lasts
  have sameParent (id : NodeId) : (forest.update document step).parent? id = forest.parent? id :=
    parent?_update parents
  have sameChildren (id : NodeId) :
      (forest.update document step).children id = forest.children id := children_update children
  have isDoctype {id : NodeId} (is : forest.isA Content.isDoctype id) :
      (forest.update document step).isA Content.isDoctype id := by
    rw [isA_of_lasting (lasting id) fun content => by cases content <;> rfl]
    exact is
  refine
    { placed := fun id new isInner notPending => ?_, emptied := fun id new isFragment notPending => ?_
      rows := fun id noDocument => ?_, doctypes := fun other doctype remembers => ?_ }
  · rw [isA_of_lasting (lasting id) Content.isInner_lasting] at isInner
    rw [sameParent]
    refine (kept.placed id new isInner notPending).imp_right fun ⟨isUnder, displaced⟩ =>
      ⟨isUnder, ?_, ?_, (sameParent id).trans displaced.top, ?_⟩
    · rw [isA_of_lasting (lasting home) Content.isDocument_lasting]
      exact displaced.isDocument
    · rw [isA_of_lasting (lasting id) Content.isElement_lasting]
      exact displaced.isElement
    · rw [rootElement?_eq (sameChildren home) fun child _ =>
        isA_of_lasting (lasting child) Content.isElement_lasting]
      exact displaced.later
  · rw [isA_of_lasting (lasting id) Content.isFragment_lasting] at isFragment
    rw [sameChildren]
    exact kept.emptied id new isFragment notPending
  · rw [isA_of_lasting (lasting id) Content.isDocument_lasting] at noDocument
    rw [sameChildren]
    exact kept.rows id noDocument
  · have known : forest.doctype? other = some doctype ∨ forest.isA Content.isDoctype doctype := by
      unfold doctype? at remembers ⊢
      rw [content?, node?_update] at remembers
      rw [content?]
      split at remembers
      · rename_i version remembered there
        obtain rfl : remembered = some doctype := remembers
        split at there
        · cases found : forest.node? other with
          | none => simp [found] at there
          | some node =>
              rw [found] at there
              refine (doctypes node version doctype (Option.some.inj there)).imp_left fun same => ?_
              simp [same]
        · exact .inl (by simp [there])
      · cases remembers
    rcases known with before | is
    · exact (kept.doctypes other doctype before).imp_right isDoctype
    · exact .inr (isDoctype is)

/-- A doctype comes into a document, in the place of another one if that is
remembered. -/
theorem doctype {front back : List NodeId} {gone : Option NodeId}
    (kept : Kept target home start pending row before) (agrees : before.Agrees)
    (isDocument : before.isA Content.isDocument document)
    (isDoctype : before.isA Content.isDoctype node)
    (split : before.children document = front ++ gone.toList ++ back)
    (isGone : ∀ old, gone = some old → old < start ∨ before.isA Content.isDoctype old)
    (alters : Alters document (front ++ node :: back) gone none before after)
    (content : ∀ id, after.content? id = before.content? id) :
    Kept target home start pending row after := by
  have isElement (id : NodeId) :
      after.isA Content.isElement id = before.isA Content.isElement id := by
    rw [isA, isA, content]
  refine kept.alters alters content (fun member among => .inl among)
    (fun member among isInner => .inl ?_) (fun old same new isInner => ?_)
    (fun _ root new isRoot => ⟨root, ?_, Nat.le_refl _⟩)
    (fun _ isFragment => ?_) (fun _ same => by cases same) fun other noDocument => ?_
  · have differ : member ≠ node := by
      rintro rfl
      rw [isA_of_isA Content.isInner_of_isDoctype isDoctype] at isInner
      cases isInner
    refine agrees.parent document member ?_
    rw [split]
    simp only [List.mem_append, List.mem_cons] at among ⊢
    rcases among with early | isNode | late
    · exact .inl (.inl early)
    · exact absurd isNode differ
    · exact .inr late
  · rcases isGone old same with early | isDoctype
    · exact absurd early (Nat.not_lt.mpr new)
    · rw [isA_of_isA Content.isInner_of_isDoctype isDoctype] at isInner
      cases isInner
  · by_cases isHome : home = document
    · subst isHome
      have fails : before.isA Content.isElement node = false :=
        isA_of_isA Content.isElement_of_isDoctype isDoctype
      unfold rootElement? at isRoot ⊢
      rw [alters.row, List.find?_congr fun child _ => isElement child]
      rw [split] at isRoot
      cases gone with
      | none =>
          rw [List.find?_append, List.find?_cons_of_neg (by simp [fails]), ← List.find?_append]
          simpa using isRoot
      | some old =>
          have split' : front ++ (some old).toList ++ back = front ++ old :: back := by simp
          rw [split'] at isRoot
          refine find?_instead isRoot ?_ fails
          rintro rfl
          rcases isGone root rfl with early | isDoctype
          · exact absurd early (Nat.not_lt.mpr new)
          · have isElement := List.find?_some isRoot
            rw [isA_of_isA Content.isElement_of_isDoctype isDoctype] at isElement
            cases isElement
    · have isChild := agrees.parent home root (List.mem_of_find?_eq_some isRoot)
      rw [← isRoot]
      exact rootElement?_eq
        (alters.children home (agrees.fits root home isChild).homeInside isHome (Option.some_ne_none _).symm)
        fun _ _ => isElement _
  · rw [isDocument_of_isFragment isFragment] at isDocument
    cases isDocument
  · rw [isA, content] at noDocument
    have differ : other ≠ document := by
      rintro rfl
      rw [isA, noDocument] at isDocument
      cases isDocument
    rcases Nat.lt_or_ge other before.size with inside | beyond
    · rw [alters.children other inside differ (Option.some_ne_none _).symm]
      exact kept.rows other noDocument
    · rw [kept.row_eq_nil beyond]
      exact List.nil_sublist _

end Forest.Kept

namespace Edit

/-- A document remembers a doctype. -/
theorem kept_remember (kept : Kept target home start pending row forest)
    (isDoctype : forest.isA Content.isDoctype node) :
    Ensures (change document (remembering node)) forest
      (fun _ => Kept target home start pending row) fun _ _ => True := by
  rw [change, ensures_modify]
  refine kept.remembering (lasting_remembering node) (remembering_parent node)
    (remembering_children node) fun found version doctype remembers => ?_
  unfold remembering at remembers
  split at remembers
  · cases remembers
    exact .inr isDoctype
  · exact .inl remembers

/-- A document takes a doctype that has no place, and remembers it. -/
theorem kept_placeDoctype (kept : Kept target home start pending row forest)
    (agrees : forest.Agrees) (isDocument : forest.isA Content.isDocument document)
    (isDoctype : forest.isA Content.isDoctype node) (top : forest.parent? node = none) :
    Ensures (placeDoctype document node) forest
      (fun _ => Kept target home start pending row) fun _ _ => True := by
  have noFragment : forest.isA Content.isFragment node = false :=
    isA_of_isA Content.isFragment_of_isDoctype isDoctype
  have joined {mark : Option NodeId} {step : Edit Unit}
      (joins : Ensures step forest (fun _ after => Joins document node mark forest after)
        fun _ _ => ¬ forest.Takes document [node]) :
      Ensures step forest (fun _ after => Kept target home start pending row after ∧
        after.isA Content.isDoctype node) fun _ _ => True := by
    refine joins.mono (fun _ after joins => ?_) fun _ _ _ => trivial
    have content := joins.content
    have fits := joins.fits
    obtain ⟨middle, front, back, -, detached, -, gains⟩ := joins
    obtain rfl : middle = forest := by
      rcases detached with ⟨-, same⟩ | ⟨home, -, -, was, -⟩
      · exact same
      · rw [top] at was
        cases was
    have split : middle.children document = front ++ (none : Option NodeId).toList ++ back := by
      simp [gains.split]
    refine ⟨kept.doctype agrees isDocument isDoctype split (fun _ same => by cases same)
      (gains.alters agrees fits top) content, ?_⟩
    rw [isA, content]
    exact isDoctype
  have finish {step : Edit Unit}
      (places : Ensures step forest (fun _ after => Kept target home start pending row after ∧
        after.isA Content.isDoctype node) fun _ _ => True) :
      Ensures (step >>= fun _ => change document (remembering node)) forest (fun _ => Kept target home start pending row) fun _ _ => True := by
    rw [MarkupSpec.ensures_bind]
    exact places.mono (fun _ _ ends => kept_remember ends.1 ends.2) fun _ _ _ => trivial
  rw [placeDoctype, MarkupSpec.ensures_bind, ensures_get]
  dsimp only
  split
  · rename_i old isOld
    obtain ⟨remembers, there⟩ := Option.filter_eq_some_iff.mp isOld
    have there : forest.parent? old = some document := by simpa using there
    have among := agrees.child old document there
    have differ : node ≠ old := by
      rintro rfl
      rw [top] at there
      cases there
    obtain ⟨front, back, split⟩ := List.append_of_mem among
    refine finish ((ousts_replaceChild agrees noFragment among differ).mono
      (fun _ after ousts => ?_) fun _ _ _ => trivial)
    have split' : forest.children document = front ++ (some old).toList ++ back := by
      simpa using split
    refine ⟨kept.doctype agrees isDocument isDoctype split' (fun gone same => ?_)
      ((ousts.swaps agrees top split).alters agrees ousts.fits top differ) ousts.content, ?_⟩
    · cases same
      exact kept.doctypes document old remembers
    · rw [isA, ousts.content]
      exact isDoctype
  · split
    · rename_i element isRoot
      refine finish (joined (joins_insertBefore agrees noFragment fun other same => ?_))
      cases same
      have among := List.mem_of_find?_eq_some isRoot
      refine ⟨among, ?_⟩
      rintro rfl
      rw [agrees.parent document element among] at top
      cases top
    · exact finish (joined (joins_appendChild agrees noFragment))

end Edit

/-- Giving a document a doctype keeps what was made. -/
theorem kept_giveDoctype (kept : Kept target home start pending row world.forest)
    (agrees : world.forest.Agrees) (known : start ≤ world.forest.size) (root : Value)
    (publicId systemId : Option String) :
    Ensures (giveDoctype document root publicId systemId) world
      (fun _ after => Kept target home start pending row after.forest) fun _ _ => True := by
  rw [giveDoctype, MarkupSpec.ensures_bind, ensures_edit, ensures_checkDocument]
  refine ⟨fun isDocument => ?_, fun _ => trivial⟩
  refine (readsOnly_doctypeName root).ensures_bind (fun asked after _ same => ?_)
    fun _ _ _ => trivial
  rw [MarkupSpec.ensures_bind, ensures_edit, same, createDoctype, ensures_create]
  refine ⟨fun _ => ?_, fun _ => trivial⟩
  have made (content : Content) (isDoctype : content.isDoctype) :
      Kept target home start pending row
        (world.forest.add { content, owner := some document }) := by
    have fresh := fresh_add agrees content (some document)
    have is {test : Content → Bool} (fails : test content = false) :
        (world.forest.add { content, owner := some document }).isA test world.forest.size =
          false := by
      simpa [isA, content?] using fails
    have grown : Grows Nobody world.forest
        (world.forest.add { content, owner := some document }) :=
      grows_add (by cases content <;> first | rfl | cases isDoctype)
    refine (kept.fresh fresh known grown.noDocument).settle
      (is (Content.isInner_of_isDoctype isDoctype)) fun isFragment => ?_
    rw [is (Content.isFragment_of_isDoctype isDoctype)] at isFragment
    cases isFragment
  refine (readsOnly_noticeReplaced document root).ensures_bind (fun _ final _ same => ?_)
    fun _ _ _ => trivial
  rw [MarkupSpec.ensures_bind, ensures_edit, same]
  have isDocument' (content : Content) :
      (world.forest.add { content, owner := some document }).isA Content.isDocument document := by
    rw [isA, (fresh_add agrees content (some document)).intact.content document
      (lt_size_of_isA isDocument)]
    exact isDocument
  exact (kept_placeDoctype (made _ rfl) (agrees.add _ _)
    (isDocument' _) (by simp [isA, content?, Content.isDoctype]) (by simp [parent?])).mono
    (fun _ _ kept => kept) fun _ _ _ => trivial

/-- So does building a doctype. -/
theorem kept_buildDoctype {scene : Scene} (kept : Kept target home start pending row world.forest)
    (agrees : world.forest.Agrees) (known : start ≤ world.forest.size) (spec : Spec)
    (path : List String) (children : List Value) (attributes : RawAttributes) :
    Ensures (buildDoctype scene spec path children attributes) world
      (fun _ after => Kept target home start pending row after.forest) fun _ _ => True := by
  rw [buildDoctype]
  refine (readsOnly_leadingText _ _ _ _ _).ensures_bind (fun name first _ same => ?_)
    fun _ _ _ => trivial
  refine (readsOnly_identifier _ _ _ _ _).ensures_bind (fun publicId second _ same' => ?_)
    fun _ _ _ => trivial
  refine (readsOnly_identifier _ _ _ _ _).ensures_bind (fun systemId third _ same'' => ?_)
    fun _ _ _ => trivial
  have same := same''.trans (same'.trans same)
  exact kept_giveDoctype (same ▸ kept) (same ▸ agrees) (same ▸ known) _ _ _

/-! ## Making nodes -/

/-- What is made without parts is new, and so is all that comes with it. -/
theorem fresh_rising_makeLeaf (scene : Scene) (path : List String) (spec : Spec) {world : World}
    (agrees : world.forest.Agrees) :
    Ensures (makeLeaf scene path spec) world
      (fun node after => Fresh world.forest node after.forest ∧
        (after.forest.children node).Pairwise (· < ·) ∧
        ∀ id, world.forest.size ≤ id → after.forest.isA Content.isDocument id = false)
      fun _ _ => True := by
  have rising : Ensures (makeLeaf scene path spec) world
      (fun node after => (after.forest.children node).Pairwise (· < ·)) fun _ _ => True := by
    by_cases copied : ∃ id, spec = .existing id
    · obtain ⟨id, rfl⟩ := copied
      show Ensures (edit (Edit.copy scene.document true id)) world _ _
      rw [ensures_edit]
      exact (copies_copy scene.document true id agrees).mono (fun _ _ copies => copies.rising)
        fun _ _ _ => trivial
    · refine (addsLeaf_makeLeaf scene path (fun id same => copied ⟨id, same⟩) world).mono
        (fun node after adds => ?_) fun _ _ _ => trivial
      obtain ⟨-, rfl, content, -, added⟩ := adds
      simp [added, children]
  exact (((fresh_makeLeaf scene path spec agrees).and rising).and
    (makes_makeLeaf scene path spec world)).mono
    (fun _ _ ends => ⟨ends.1.1, ends.1.2, ends.2.1.noDocument⟩) fun _ _ _ => trivial

/-! ## Beside a node -/

/-- What is emptied has no children any more if all of them are in the list. -/
theorem Forest.Alters.children_emptied {list : List NodeId} {gone : Option NodeId} {holder : NodeId}
    (alters : Alters home list gone (some holder) before after) (agrees : before.Agrees)
    (size : after.size = before.size) (differ : holder ≠ home)
    (moved : before.children holder ⊆ list) : after.children holder = [] := by
  refine List.eq_nil_iff_forall_not_mem.mpr fun id among => ?_
  have there := alters.agrees.parent holder id among
  by_cases inList : id ∈ list
  · rw [alters.agrees.parent home id (alters.row ▸ inList)] at there
    exact differ (Option.some.inj there).symm
  · have known : id < before.size := size ▸ lt_size_of_parent? there
    rw [alters.parent id known inList] at there
    split at there
    · cases there
    · exact inList (moved (agrees.child id holder there))

/-- A child that is taken out leaves the others. -/
theorem Forest.Loses.alters_home {front back : List NodeId}
    (loses : Loses home node front back before after) (agrees : before.Agrees) :
    Alters home (front ++ back) (some node) none before after where
  size := Nat.le_of_eq loses.size.symm
  agrees := agrees.loses loses
  content id _ := loses.content id
  row := by rw [loses.children, if_pos rfl]
  children id _ elsewhere _ := by rw [loses.children, if_neg elsewhere]
  parent id _ _ := by
    rw [loses.parent]
    simp [eq_comm]

section Beside

variable {holder : NodeId}

/-- A reference that was not made may be removed. -/
theorem Edit.kept_remove (agrees : forest.Agrees) (beside : target.isUnder = false)
    (there : forest.parent? target.reference = some home) (old : target.reference < start)
    (early : home < start) (noRow : row home = [])
    (kept : Kept target home start pending row forest) :
    Ensures (remove target.reference) forest
      (fun _ => Kept target home start pending row) fun _ _ => True := by
  rw [remove_eq, ensures_parentOf_child there, MarkupSpec.ensures_bind]
  refine (ensures_removeClosing agrees).mono (fun _ middle loses => ?_) fun _ _ _ => trivial
  obtain ⟨front, back, loses⟩ := loses
  have alters := loses.alters_home agrees
  have kept' : Kept target home start pending row middle := by
    refine kept.alters alters loses.content (fun _ among => .inl among) (fun _ _ _ => .inr (.inl rfl))
      (fun gone same new _ => ?_) (fun isUnder => ?_)
      (fun new => absurd early (Nat.not_lt.mpr new)) (fun _ same => by cases same)
      fun other noDocument => ?_
    · cases same
      exact absurd old (Nat.not_lt.mpr new)
    · rw [beside] at isUnder
      cases isUnder
    · rw [isA, loses.content] at noDocument
      by_cases isHome : other = home
      · subst isHome
        rw [noRow]
        exact List.nil_sublist _
      · rw [loses.children, if_neg isHome]
        exact kept.rows other noDocument
  rw [change, ensures_modify]
  exact kept'.remembering (lasting_forgetting _) (forgetting_parent _) (forgetting_children _)
    fun _ _ _ remembers => .inl (content_of_forgetting remembers)

/-- The children of a pending fragment come beside a reference that was not made, and the
fragment is empty then. -/
theorem Edit.kept_place_fragment (intact : Intact {} forest) (beside : target.isUnder = false)
    (there : forest.parent? target.reference = some home) (old : target.reference < start)
    (early : home < start) (noRow : row home = []) (new : start ≤ holder)
    (isFragment : forest.isA Content.isFragment holder)
    (kept : Kept target home start [holder] row forest) :
    Ensures (place target holder) forest
      (fun _ after => after.size = forest.size →
        Kept target home start [] (fun id => if id = holder then [] else row id) after ∧
          (forest.children holder).Sublist (after.children home))
      fun _ _ => True := by
  have agrees := intact.agrees
  have among := agrees.child _ home there
  have differ : holder ≠ home := (Nat.ne_of_lt (Nat.lt_of_lt_of_le early new)).symm
  have notInner : forest.isA Content.isInner holder = false :=
    isA_of_isA Content.isInner_of_isFragment isFragment
  by_cases removes : target.mode = .replacing ∧ forest.children holder = []
  · -- Nothing is put anywhere, but the reference goes.
    obtain ⟨isMode, held⟩ := removes
    have kept' : Kept target home start [] row forest := kept.settle notInner fun _ => held
    rw [ensures_place_nothing isFragment held isMode]
    refine (kept_remove agrees beside there old early noRow kept').mono (fun _ _ kept _ => ?_)
      fun _ _ _ => trivial
    refine ⟨kept.fewer fun id => ?_, held ▸ List.nil_sublist _⟩
    split
    · exact List.nil_sublist _
    · exact List.Sublist.refl _
  · refine (alters_place_fragment differ agrees isFragment (intact.linked _ (Nat.zero_le _)) beside
      there (intact.linked _ (Nat.zero_le _)) (not_and.mp removes)).mono (fun _ after alters size => ?_)
      fun _ _ _ => trivial
    have content (id : NodeId) : after.content? id = forest.content? id := by
      rcases Nat.lt_or_ge id forest.size with inside | beyond
      · exact alters.content id inside
      · rw [content?_eq_none beyond, content?_eq_none (size ▸ beyond)]
    have spliced : (forest.children holder).Sublist
        (target.splice (forest.children holder) (forest.children home)) :=
      target.sublist_splice beside (agrees.nodup home) among
    refine ⟨(kept.alters alters content (fun _ pending => .inl pending) (fun _ _ _ => .inr (.inl rfl))
      (fun gone same new _ => ?_) (fun isUnder => ?_) (fun new => absurd early (Nat.not_lt.mpr new))
      (fun other same => ?_) fun other noDocument => ?_).settle ?_ fun _ =>
        alters.children_emptied agrees size differ spliced.subset, alters.row ▸ spliced⟩
    · unfold Target.gone at same
      split at same
      · exact absurd old (Nat.not_lt.mpr (Option.some.inj same ▸ new))
      · cases same
    · rw [beside] at isUnder
      cases isUnder
    · cases same
      exact List.mem_singleton_self _
    · rw [isA, content] at noDocument
      split
      · exact List.nil_sublist _
      · rename_i notHolder
        by_cases isHome : other = home
        · subst isHome
          rw [noRow]
          exact List.nil_sublist _
        · rcases Nat.lt_or_ge other forest.size with inside | beyond
          · rw [alters.children other inside isHome fun same =>
              notHolder (Option.some.inj same).symm]
            exact kept.rows other noDocument
          · rw [kept.row_eq_nil beyond]
            exact List.nil_sublist _
    · rw [isA, content]
      exact notInner

/-- A fragment gives its children a place beside a reference that was not made. -/
theorem kept_attach_fragment (intact : Intact {} world.forest) (beside : target.isUnder = false)
    (there : world.forest.parent? target.reference = some home) (old : target.reference < start)
    (early : home < start) (noRow : row home = []) (new : start ≤ holder)
    (isFragment : world.forest.isA Content.isFragment holder)
    (kept : Kept target home start [holder] row world.forest) :
    Ensures (attach target holder) world
      (fun _ after =>
        Kept target home start [] (fun id => if id = holder then [] else row id) after.forest ∧
          (world.forest.children holder).Sublist (after.forest.children home))
      fun _ _ => True := by
  have places : Ensures (attach target holder) world
      (fun _ after => after.forest.size = world.forest.size →
        Kept target home start [] (fun id => if id = holder then [] else row id) after.forest ∧
          (world.forest.children holder).Sublist (after.forest.children home))
      fun _ _ => True := by
    refine ensures_attach (fun _ later _ same => ?_) fun _ _ _ => trivial
    rw [ensures_edit, same]
    exact kept_place_fragment intact beside there old early noRow new isFragment kept
  exact ((lasts_attach target holder world).and places).mono (fun _ _ ends => ends.2 ends.1.1)
    fun _ _ _ => trivial

/-- A node that was just made gets its place beside a reference that was not made. -/
theorem kept_attach_beside (intact : Intact {} before) (beside : target.isUnder = false)
    (there : before.parent? target.reference = some home) (old : target.reference < start)
    (early : home < start) (known : start ≤ before.size)
    (kept : Kept target home start [] (fun _ => []) before) (fresh : Fresh before node world.forest)
    (noDocument : ∀ id, before.size ≤ id → world.forest.isA Content.isDocument id = false) :
    Ensures (attach target node) world
      (fun _ after => Kept target home start [] (fun _ => []) after.forest ∧
        (world.forest.bundle node).Sublist (after.forest.children home))
      fun _ _ => True := by
  have intact' := intact.trans fresh.intact
  have kept' := kept.fresh fresh known noDocument
  have there' : world.forest.parent? target.reference = some home := by
    rw [fresh.intact.parent _ (lt_size_of_parent? there)]
    exact there
  have new : start ≤ node := fresh.number ▸ known
  unfold bundle
  split
  · rename_i isFragment
    refine (kept_attach_fragment intact' beside there' old early rfl new isFragment kept').mono
      (fun _ after ends => ⟨ends.1.fewer fun _ => List.nil_sublist _, ends.2⟩) fun _ _ _ => trivial
  · rename_i other
    have noFragment : world.forest.isA Content.isFragment node = false := by simpa using other
    have agrees := intact'.agrees
    have among := agrees.child _ home there'
    have places : Ensures (attach target node) world
        (fun _ after => Alters home (target.splice [node] (world.forest.children home))
          (target.gone [node]) none world.forest after.forest) fun _ _ => True := by
      refine ensures_attach (fun _ later _ same => ?_) fun _ _ _ => trivial
      rw [ensures_edit, same]
      exact (alters_place_one agrees noFragment fresh.top beside there'
        (intact'.linked _ (Nat.zero_le _))).mono (fun _ _ alters => alters) fun _ _ _ => trivial
    refine ((lasts_attach target node world).and places).mono (fun _ after ends => ?_)
      fun _ _ _ => trivial
    obtain ⟨⟨size, -⟩, alters⟩ := ends
    have content (id : NodeId) : after.forest.content? id = world.forest.content? id := by
      rcases Nat.lt_or_ge id world.forest.size with inside | beyond
      · exact alters.content id inside
      · rw [content?_eq_none beyond, content?_eq_none (size ▸ beyond)]
    have spliced : [node].Sublist (target.splice [node] (world.forest.children home)) :=
      target.sublist_splice beside (agrees.nodup home) among
    refine ⟨kept'.alters alters content (fun member pending => .inr ⟨?_, .inl rfl⟩)
      (fun _ _ _ => .inr (.inl rfl)) (fun gone same new _ => ?_) (fun isUnder => ?_)
      (fun new => absurd early (Nat.not_lt.mpr new)) (fun _ same => by cases same)
      fun _ _ => List.nil_sublist _,
      alters.row ▸ spliced⟩
    · rw [List.mem_singleton.mp pending]
      exact spliced.subset (List.mem_singleton_self _)
    · unfold Target.gone at same
      split at same
      · exact absurd old (Nat.not_lt.mpr (Option.some.inj same ▸ new))
      · cases same
    · rw [beside] at isUnder
      cases isUnder

end Beside

end MarkupSpec
