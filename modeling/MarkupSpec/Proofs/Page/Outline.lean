import MarkupSpec.Proofs.Build.DocumentContent
import MarkupSpec.Proofs.Flatten.Words
import MarkupSpec.Proofs.Namespace.ElementScope
import MarkupSpec.Proofs.Namespace.NameSplitting
import MarkupSpec.Proofs.Page.Draft

/-!
# The outline of a page

A page that is built in a document without children has the same outline whatever is given for its
parts (`Page.build_outlines`): an instruction for the stylesheet and a doctype, each of them only if
it is asked for, and then a root with a head and a body, which are filled with what the page has for
them.

The spec of a page is a sequence of up to three maps.  They are built in turn, and each of them
comes behind what the document has by then.  The head and the body are the members of a sequence
themselves, and take their namespace from the root, which declares that of XHTML if the page does
(`Page.isXhtml_of_raisesBoth`).
-/

namespace MarkupSpec

open Forest Edit Build Visit

/-- The node is an element of a name. -/
def Forest.IsCalled (forest : Forest) (id : NodeId) (name : String) : Prop :=
  ∃ tag, forest.content? id = some (.element tag) ∧ tag.name = name

/-- The node is an element in a namespace. -/
def Forest.IsIn (forest : Forest) (id : NodeId) (uri : String) : Prop :=
  ∃ tag, forest.content? id = some (.element tag) ∧ tag.namespaceUri = some uri

/-! ## Elements of plain names -/

/-- The name is there, on one line, and has no colon. -/
def IsWord (name : String) : Prop :=
  name ≠ "" ∧ Text.splitAt? ':' name.toList = none ∧ '\n' ∉ name.toList

instance (name : String) : Decidable (IsWord name) := inferInstanceAs (Decidable (_ ∧ _ ∧ _))

namespace IsWord

variable {name : String} (isWord : IsWord name)

include isWord

theorem readsAlike : ReadsAlike name := by
  obtain ⟨-, whole, oneLine⟩ := isWord
  rw [ReadsAlike, whole]
  intro line _ _ same
  rw [same] at oneLine
  simp at oneLine

theorem unqualified : (splitQualified name).1 = none := by
  rw [splitQualified_eq_splitColon_iff.mpr isWord.readsAlike, Text.splitColon, isWord.2.1]

end IsWord

theorem flatten_of_isAbsent {value : Value} (isAbsent : value.isAbsent) (arguments : List Value) :
    flatten arguments value = pure none := flattenWithin_of_isAbsent isAbsent _

namespace Visit

variable {scene : Scene} {visit : Visit} {made : Made} {after : World}
  {name : String} {attributes : RawAttributes} {children : List Value}

/-- A name that is a text comes to itself. -/
theorem flattened_of_flattens {found : String} {entries : List (String × String)}
    (flattens : visit.Flattens scene found entries)
    (reads : visit.value.IsReadAs scene.settings (.element (.text name) attributes children))
    (isWord : IsWord name) : found = name ∧
      ∃ read after, MarkupSpec.Flattened scene.arguments attributes read entries after := by
  obtain ⟨given, attributes', children', read, named, flat, part, flattens, flattens'⟩ := flattens
  cases eq_of_part? reads part
  rw [flatten_text isWord.1] at flattens
  cases flattens
  exact ⟨rfl, read, flat, flattened_iff.mpr flattens'⟩

variable (isMade : visit.made? scene = some (made, after))
  (reads : visit.value.IsReadAs scene.settings (.element (.text name) attributes children))
  (isWord : IsWord name)

include isMade reads isWord

/-- The element that is made of a map has its name. -/
theorem isCalled_of_made? : after.forest.IsCalled made.element name := by
  obtain ⟨found, entries, near, tag, flattens, -, exact, isTag, there⟩ :=
    visit.exact_of_made? isMade
  obtain ⟨rfl, -⟩ := flattened_of_flattens flattens reads isWord
  exact ⟨tag, there, ((Resolution.isNamed_iff exact.split isTag).mpr isWord.readsAlike).1⟩

/-- An element that is given a default namespace, and no other one, is in it and says so. -/
theorem states_of_made? {uri : String} (isUri : uri ≠ "")
    (given : ("xmlns", Value.text uri) ∈ attributes)
    (only : ∀ key value, (key, value) ∈ attributes → declaredQualifier? key = some none →
      value = .text uri ∨ value.isAbsent) :
    after.forest.IsIn made.element uri ∧
      (after.forest.statedAt made.element).lookup (declarationKey none) = some uri := by
  obtain ⟨found, entries, near, tag, flattens, -, exact, isTag, there⟩ :=
    visit.exact_of_made? isMade
  obtain ⟨rfl, read, flat, flattened⟩ := flattened_of_flattens flattens reads isWord
  have isDefault : declaredQualifier? "xmlns" = some none := by decide
  have declares : declaredFor entries none = some uri := by
    refine declaredFor_eq_some (by decide) (fun entry among isOf => ?_)
      ⟨("xmlns", uri), flattened.mem_of_mem (flatten_text isUri _) given, isDefault⟩
    obtain ⟨value, start, final, isGiven, comes⟩ := flattened.exists_of_mem among
    rcases only _ _ isGiven isOf with rfl | isAbsent
    · rw [flatten_text isUri] at comes
      cases comes
      rfl
    · rw [flatten_of_isAbsent isAbsent] at comes
      cases comes
  have isName := ((Resolution.isNamed_iff exact.split isTag).mpr isWord.readsAlike).1
  have single : (Text.splitColon made.resolution.name).1 = none := by
    rw [← (Resolution.isNamed isTag).1, isName,
      ← splitQualified_eq_splitColon_iff.mpr isWord.readsAlike, isWord.unqualified]
  obtain ⟨isIn, stated⟩ :=
    lookup_stated_default exact isTag isWord.unqualified single declares isUri
  refine ⟨⟨tag, there, isIn⟩, ?_⟩
  rw [statedAt, there]
  exact stated

/-- An element that is given no default namespace is in the one that the element around it says. -/
theorem isIn_of_made? {near : NodeId} {uri : String} (isNear : visit.place.pseudo = some near)
    (stated : (visit.world.forest.statedAt near).lookup (declarationKey none) = some uri)
    (isUri : uri ≠ "")
    (silent : ∀ key value, (key, value) ∈ attributes → declaredQualifier? key = some none →
      value.isAbsent) :
    after.forest.IsIn made.element uri := by
  refine namespace_of_stated isMade isNear stated isUri fun found entries flattens => ?_
  obtain ⟨rfl, read, flat, flattened⟩ := flattened_of_flattens flattens reads isWord
  refine ⟨isWord.unqualified, fun entry among isOf => ?_⟩
  obtain ⟨value, start, final, isGiven, comes⟩ := flattened.exists_of_mem among
  rw [flatten_of_isAbsent (silent _ _ isGiven isOf)] at comes
  cases comes

end Visit

/-! ## In front of the root -/

/-- The nodes are one with such a content if there should be one, and none otherwise. -/
def Forest.HasIf (forest : Forest) (isAsked : Bool) (nodes : List NodeId) (is : Content → Prop) :
    Prop :=
  if isAsked then ∃ node content, nodes = [node] ∧ forest.content? node = some content ∧ is content
  else nodes = []

theorem Forest.HasIf.later {forest after : Forest} {isAsked : Bool} {nodes : List NodeId}
    {is : Content → Prop} (has : forest.HasIf isAsked nodes is)
    (same : ∀ id ∈ nodes, after.content? id = forest.content? id) :
    after.HasIf isAsked nodes is := by
  unfold HasIf at has ⊢
  split
  · rename_i asked
    rw [if_pos asked] at has
    obtain ⟨node, content, rfl, there, isContent⟩ := has
    exact ⟨node, content, rfl, (same node (List.mem_singleton_self _)).trans there, isContent⟩
  · rename_i notAsked
    rwa [if_neg notAsked] at has

/-- Of a value that may be there one build is run, or none. -/
theorem InTurn.one_or_none {scene : Scene} {visits : List Visit} {world after : World}
    {isAsked : Bool} {value : Value} (inTurn : InTurn scene visits world after)
    (values : visits.map Visit.value = if isAsked then [value] else []) :
    (isAsked = false ∧ after = world) ∨
      isAsked ∧ ∃ visit last, visit ∈ visits ∧ visit.value = value ∧ visit.world = world ∧
        visit.Runs scene last after := by
  cases isAsked with
  | false =>
      obtain rfl := List.map_eq_nil_iff.mp values
      cases inTurn
      exact .inl ⟨rfl, rfl⟩
  | true =>
      obtain ⟨visit, rest, rfl, isValue, none⟩ := List.map_eq_cons_iff.mp values
      obtain rfl := List.map_eq_nil_iff.mp none
      cases inTurn with
      | cons runs later =>
          cases later
          exact .inr ⟨rfl, visit, _, List.mem_cons_self, isValue, rfl, runs⟩

namespace Page

/-- An instruction for a stylesheet. -/
def IsStylesheet (content : Content) : Prop := ∃ data, content = .instruction "xml-stylesheet" data

/-- A doctype of the name of the root. -/
def IsDoctype (content : Content) : Prop :=
  ∃ publicId systemId, content = .doctype (some "html") publicId systemId

section Front

variable {scene : Scene} {page : Page} {draft : Draft} {document : NodeId} {visits : List Visit}
  {world after : World} (inTurn : InTurn scene visits world after)
  (areUnder : ∀ visit ∈ visits, visit.place.target = .under document)
  (intact : Intact {} world.forest) (isDocument : world.forest.isA Content.isDocument document)
  (rootless : world.forest.IsRootless document)

include inTurn areUnder intact isDocument rootless

/-- A document gets an instruction, if the page has a stylesheet. -/
theorem extends_stylesheet (values : visits.map Visit.value =
    if page.stylesheet.isTrue then [draft.instruction scene.settings.marker] else []) :
    ∃ nodes, Extends document nodes world.forest after.forest ∧
      after.forest.content? document = world.forest.content? document ∧
      after.forest.IsRootless document ∧
      after.forest.HasIf page.stylesheet.isTrue nodes IsStylesheet := by
  rcases inTurn.one_or_none values with
    ⟨notAsked, rfl⟩ | ⟨asked, visit, last, among, isValue, rfl, runs⟩
  · refine ⟨[], .refl intact isDocument, rfl, rootless, ?_⟩
    rw [HasIf, notAsked, if_neg Bool.false_ne_true]
  · obtain ⟨attributes, reads⟩ : ∃ attributes, (draft.instruction scene.settings.marker).IsReadAs
        scene.settings (.instruction [.text "xml-stylesheet"] attributes) := isReadAs_instruction
    obtain ⟨node, data, extended, same, there⟩ := runs.instruction (areUnder visit among) intact
      isDocument rootless (isValue ▸ reads) (by decide)
    refine ⟨[node], extended, same, rootless.extended intact extended ?_, ?_⟩
    · rw [isA, there]
      rfl
    · rw [HasIf, if_pos asked]
      exact ⟨node, _, rfl, there, data, rfl⟩

omit areUnder in
/-- A document gets a doctype, if the page has one. -/
theorem extends_doctype (isScene : scene.document = document)
    (unseated : currentDoctype? world.forest document = none)
    (values : visits.map Visit.value =
      if page.doctype.isTrue then [draft.doctype scene.settings.marker] else []) :
    ∃ nodes, Extends document nodes world.forest after.forest ∧
      after.forest.IsRootless document ∧
      after.forest.HasIf page.doctype.isTrue nodes IsDoctype := by
  rcases inTurn.one_or_none values with
    ⟨notAsked, rfl⟩ | ⟨asked, visit, last, among, isValue, rfl, runs⟩
  · refine ⟨[], .refl intact isDocument, rootless, ?_⟩
    rw [HasIf, notAsked, if_neg Bool.false_ne_true]
  · obtain ⟨attributes, reads⟩ : ∃ attributes, (draft.doctype scene.settings.marker).IsReadAs
        scene.settings (.doctype (.text "html" :: draft.identifiers) attributes) := isReadAs_doctype
    obtain ⟨node, publicId, systemId, extended, there⟩ := runs.doctype intact isDocument rootless
      isScene (isValue ▸ reads) unseated (by decide)
    refine ⟨[node], extended, rootless.extended intact extended ?_, ?_⟩
    · rw [isA, there]
      rfl
    · rw [HasIf, if_pos asked]
      exact ⟨node, _, rfl, there, publicId, systemId, rfl⟩

end Front

/-- A document without children gets what comes in front of the root. -/
theorem extends_front {scene : Scene} {page : Page} {draft : Draft} {sheets types : List Visit}
    {world after : World} (inTurn : InTurn scene (sheets ++ types) world after)
    (areSheets : sheets.map Visit.value =
      if page.stylesheet.isTrue then [draft.instruction scene.settings.marker] else [])
    (areTypes : types.map Visit.value =
      if page.doctype.isTrue then [draft.doctype scene.settings.marker] else [])
    (areUnder : ∀ visit ∈ sheets, visit.place.target = .under scene.document)
    (intact : Intact {} world.forest) (knows : world.forest.KnowsDoctypes)
    (isDocument : world.forest.isA Content.isDocument scene.document)
    (empty : world.forest.children scene.document = []) :
    ∃ instructions doctypes,
      Extends scene.document (instructions ++ doctypes) world.forest after.forest ∧
        after.forest.IsRootless scene.document ∧
        after.forest.HasIf page.stylesheet.isTrue instructions IsStylesheet ∧
        after.forest.HasIf page.doctype.isTrue doctypes IsDoctype := by
  obtain ⟨middle, onSheets, onTypes⟩ := InTurn.append.mp inTurn
  have rootless : world.forest.IsRootless scene.document := by
    intro id among
    rw [empty] at among
    cases among
  obtain ⟨instructions, sheetsExtend, same, rootless, areInstructions⟩ :=
    extends_stylesheet onSheets areUnder intact isDocument rootless areSheets
  -- A doctype that the document remembers from before is not among its children.
  obtain ⟨doctypes, typesExtend, rootless, areDoctypes⟩ :=
    extends_doctype onTypes sheetsExtend.intact sheetsExtend.isDocument rootless rfl
      (sheetsExtend.unseated knows empty same) areTypes
  exact ⟨instructions, doctypes, sheetsExtend.trans typesExtend, rootless,
    areInstructions.later fun id =>
      sheetsExtend.content_later typesExtend (lt_size_of_isA isDocument), areDoctypes⟩

end Page

/-! ## The root -/

namespace Visit

/-- What is inside of an element takes its namespaces from there. -/
theorem pseudo_of_made {scene : Scene} {visit : Visit} {made : Made} {after : World}
    (isMade : visit.made? scene = some (made, after)) : made.inside.pseudo = none := by
  obtain ⟨_, _, _, _, -, run⟩ := makeElement_of_made? isMade
  obtain ⟨⟨near, resolution⟩, _, -, rest⟩ := bind_eq_ok.mp run
  obtain ⟨_, _, -, rest⟩ := bind_eq_ok.mp rest
  obtain ⟨_, _, -, rest⟩ := bind_eq_ok.mp rest
  cases rest
  rfl

/-- All visits inside of an element are. -/
theorem enclosing_ne_nil {scene : Scene} {visit inner : Visit} (inside : visit.enclosing ≠ [])
    (among : inner ∈ visit.inner scene) : inner.enclosing ≠ [] :=
  visits_induct (P := fun _ _ enclosing => enclosing ≠ []) (H := fun _ => True)
    (fun _ _ _ _ inside => inside) (fun _ _ _ _ inside _ => inside)
    (fun _ _ _ _ _ inside _ => inside) (fun _ _ _ _ _ _ _ _ inside _ _ => inside)
    (fun _ _ _ _ _ _ => List.cons_ne_nil _ _) _ visit inside (fun _ _ => trivial) inner among

/-- Two visits to elements that come one behind the other under a home, which are filled then. -/
structure RaisesBoth (visit : Visit) (scene : Scene) (home : NodeId) (first second : Visit)
    (made made' : Made) (middle middle' after : World) (values values' : List Value) : Prop where
  isFirst : visit.IsMember home first
  isSecond : visit.IsMember home second
  same : first.world.forest = visit.world.forest
  onFirst : first.Raises scene home values made middle second.world
  onSecond : second.Raises scene home values' made' middle' after
  inFirst : (first.inner scene).Sublist (visit.inner scene)
  inSecond : (second.inner scene).Sublist (visit.inner scene)
  agrees : visit.world.forest.Agrees

namespace RaisesBoth

variable {scene : Scene} {visit first second : Visit} {home : NodeId} {made made' : Made}
  {middle middle' after : World} {values values' : List Value}
  (both : visit.RaisesBoth scene home first second made made' middle middle' after values values')

include both

theorem inside : made.element < second.world.forest.size := by
  have among : made.element ∈ second.world.forest.children home := by
    simp [both.onFirst.appends.row]
  exact both.onFirst.appends.agrees.lt_size_of_mem among

/-- The two elements come behind the children of the home. -/
theorem appends : Appends home [made.element, made'.element] visit.world.forest after.forest :=
  (both.same ▸ both.onFirst.appends).trans both.onSecond.appends both.agrees

/-- What was there keeps its content, and so do the elements. -/
theorem content_first : after.forest.content? made.element = middle.forest.content? made.element :=
  (both.onSecond.appends.content _ both.inside).trans both.onFirst.content

/-- The first element is filled still. -/
theorem fills_first (notHome : made.element ≠ home) :
    Fills scene (visit.inner scene) after.forest made.element values :=
  both.onFirst.fills.later both.inFirst
    (both.onSecond.appends.children _ both.inside notHome (Option.some_ne_none _).symm)

theorem fills_second : Fills scene (visit.inner scene) after.forest made'.element values' :=
  both.onSecond.fills.later both.inSecond rfl

end RaisesBoth

theorem Runs.raisesBoth {scene : Scene} {visit : Visit} {home : NodeId} {last : Option NodeId}
    {after : World} {value value' name name' : Value} {attributes attributes' : RawAttributes}
    {children children' : List Value} (runs : visit.Runs scene last after)
    (held : visit.value.held? = some [value, value'])
    (under : visit.place.target = .under home)
    (site : (Target.under home).Site visit.world.forest home)
    (simple : Simple scene (visit.inner scene))
    (reads : value.IsReadAs scene.settings (.element name attributes children))
    (isThere : children ≠ [])
    (reads' : value'.IsReadAs scene.settings (.element name' attributes' children'))
    (isThere' : children' ≠ []) :
    ∃ first second made made' middle middle', first.value = value ∧ second.value = value' ∧
      visit.RaisesBoth scene home first second made made' middle middle' after children
        children' := by
  obtain ⟨members, read, part, inTurn, areValues, areMembers, isInner⟩ :=
    runs.members held (List.cons_ne_nil _ _) under
  obtain ⟨first, _, rfl, isFirst, areValues⟩ := List.map_eq_cons_iff.mp areValues
  obtain ⟨second, _, rfl, isSecond, none⟩ := List.map_eq_cons_iff.mp areValues
  obtain rfl := List.map_eq_nil_iff.mp none
  have same := visit.forest_of_part? part
  have inFirst : (first.inner scene).Sublist (visit.inner scene) := by
    rw [isInner]
    simp
  have inSecond : (second.inner scene).Sublist (visit.inner scene) := by
    rw [isInner]
    simp
  have simple' {inner : Visit} (inside : (inner.inner scene).Sublist (visit.inner scene)) :
      Simple scene (inner.inner scene) := fun other among => simple other (inside.subset among)
  cases inTurn with
  | cons runsFirst later =>
      cases later with
      | cons runsSecond ended =>
          cases ended
          rw [← same] at site
          obtain ⟨made, middle, onFirst⟩ := runsFirst.raises (isFirst.symm ▸ reads) isThere
            (areMembers first (by simp)).target site (simple' inFirst)
          obtain ⟨made', middle', onSecond⟩ := runsSecond.raises (isSecond.symm ▸ reads') isThere'
            (areMembers second (by simp)).target (site.later rfl onFirst.appends) (simple' inSecond)
          exact ⟨first, second, made, made', middle, middle', isFirst, isSecond,
            areMembers first (by simp), areMembers second (by simp), same, onFirst, onSecond,
            inFirst, inSecond, same ▸ site.agrees⟩

end Visit

/-! ## The whole root -/

theorem Forest.IsCalled.later {forest after : Forest} {id : NodeId} {name : String}
    (called : forest.IsCalled id name) (same : after.content? id = forest.content? id) :
    after.IsCalled id name := by
  obtain ⟨tag, there, isName⟩ := called
  exact ⟨tag, same.trans there, isName⟩

theorem Forest.IsIn.later {forest after : Forest} {id : NodeId} {uri : String}
    (isIn : forest.IsIn id uri) (same : after.content? id = forest.content? id) :
    after.IsIn id uri := by
  obtain ⟨tag, there, isUri⟩ := isIn
  exact ⟨tag, same.trans there, isUri⟩

namespace Page

/-- The root of a page is called `html`, and has a head and a body for its children.  The head is
filled with the parts, and the body with the content. -/
structure IsRoot (page : Page) (scene : Scene) (visits : List Visit) (parts : List Value)
    (html head body : NodeId) (forest : Forest) : Prop where
  row : forest.children html = [head, body]
  isHtml : forest.IsCalled html "html"
  isHead : forest.IsCalled head "head"
  isBody : forest.IsCalled body "body"
  headFills : Fills scene visits forest head parts
  bodyFills : Fills scene visits forest body [page.content]

/-- The root of a page, its head and its body are in the namespace of XHTML. -/
structure IsXhtml (html head body : NodeId) (forest : Forest) : Prop where
  html : forest.IsIn html xhtmlNamespace
  head : forest.IsIn head xhtmlNamespace
  body : forest.IsIn body xhtmlNamespace

section Root

variable {scene : Scene} {page : Page} {draft : Draft} {visit first second : Visit}
  {made madeHead madeBody : Made} {middle middleHead middleBody after : World}

/-- A page that declares it is in the namespace of XHTML. -/
theorem isXhtml_of_raisesBoth (isMade : visit.made? scene = some (made, middle))
    (both : (visit.content made [draft.head, Draft.body page] middle).RaisesBoth scene made.element
      first second madeHead madeBody middleHead middleBody after draft.parts [page.content])
    (isRoot : visit.value = draft.root page) (isHead : first.value = draft.head)
    (isBody : second.value = Draft.body page) (isPlain : draft.IsPlain)
    (texts : TextKeys (entriesOf page.bodyAttributes)) (inside : made.element < middle.forest.size)
    (declares : page.DeclaresXhtml draft.describe) :
    IsXhtml made.element madeHead.element madeBody.element after.forest := by
  have isUri : xhtmlNamespace ≠ "" := by decide
  have near {member : Visit} (isMember : (visit.content made [draft.head, Draft.body page]
      middle).IsMember made.element member) : member.place.pseudo = some made.element := by
    rw [isMember.pseudo, show (visit.content made _ middle).place = made.inside from rfl,
      pseudo_of_made isMade, Option.getD_none]
  obtain ⟨isIn, stated⟩ := states_of_made? isMade (isRoot.symm ▸ Draft.isReadAs_root isPlain)
    (by decide) isUri (Draft.mem_attributesOf_root isPlain declares)
    fun key value among isDefault => by
      have given := mem_changes_of_mem_attributesOf (Draft.textKeys_entries isPlain) among
      exact (Draft.declares_entries isPlain declares given isDefault).imp And.right And.left
  have onFirst : first.world.forest.content? made.element = middle.forest.content? made.element :=
    congrArg (fun forest : Forest => forest.content? made.element) both.same
  have onSecond : second.world.forest.content? made.element = middle.forest.content? made.element :=
    (both.onFirst.appends.content _ (both.same ▸ inside)).trans onFirst
  refine ⟨isIn.later (both.appends.content _ inside), ?_, ?_⟩
  · refine (isIn_of_made? both.onFirst.isMade (isHead.symm ▸ Draft.isReadAs_head) (by decide)
      (near both.isFirst) ?_ isUri fun key value among => ?_).later both.content_first
    · rw [statedAt] at stated ⊢
      exact onFirst.symm ▸ stated
    · exact absurd (mem_changes_of_mem_attributesOf TextKeys.nil among) List.not_mem_nil
  · refine (isIn_of_made? both.onSecond.isMade (isBody.symm ▸ Draft.isReadAs_body texts) (by decide)
      (near both.isSecond) ?_ isUri fun key value among isDefault => ?_).later
        both.onSecond.content
    · rw [statedAt] at stated ⊢
      exact onSecond.symm ▸ stated
    · exact declares.body _ _ (mem_changes_of_mem_attributesOf texts among) isDefault

/-- A document without an element gets the root of the page. -/
theorem extends_root {document : NodeId} {last : Option NodeId} (runs : visit.Runs scene last after)
    (isRoot : visit.value = draft.root page)
    (under : visit.place.target = .under document) (intact : Intact {} visit.world.forest)
    (isDocument : visit.world.forest.isA Content.isDocument document)
    (rootless : visit.world.forest.IsRootless document)
    (simple : ∀ inner ∈ visit.inner scene, inner.enclosing ≠ [] → inner.isSimple scene)
    (intact' : Intact {} after.forest) (isThere : draft.parts ≠ []) (isPlain : draft.IsPlain)
    (texts : TextKeys (entriesOf page.bodyAttributes)) :
    ∃ html head body, Extends document [html] visit.world.forest after.forest ∧
      page.IsRoot scene (visit.inner scene) draft.parts html head body after.forest ∧
      (page.DeclaresXhtml draft.describe → IsXhtml html head body after.forest) := by
  have reads : visit.value.IsReadAs scene.settings _ :=
    isRoot.symm ▸ Draft.isReadAs_root isPlain
  obtain ⟨read, part⟩ := runs.part reads
  obtain ⟨made, middle, last', isMade, inner, isInner⟩ := runs.element part (List.cons_ne_nil _ _)
  have crowns := crowns_of_made? under intact isDocument rootless isMade
  have among : ((visit.content made [draft.head, Draft.body page] middle).inner scene).Sublist
      (visit.inner scene) := by
    rw [isInner]
    exact List.sublist_cons_self _ _
  obtain ⟨first, second, madeHead, madeBody, middleHead, middleBody, isHead, isBody, both⟩ :=
    inner.raisesBoth rfl crowns.inside crowns.site
      (fun other inside =>
        simple other (among.subset inside) (enclosing_ne_nil (List.cons_ne_nil _ _) inside))
      Draft.isReadAs_head isThere (Draft.isReadAs_body texts) (List.cons_ne_nil _ _)
  have inside : made.element < middle.forest.size := crowns.site.inside
  have isNew : visit.world.forest.size ≤ made.element := Nat.le_of_eq crowns.element.symm
  refine ⟨made.element, madeHead.element, madeBody.element,
    crowns.extended.below intact' (lt_size_of_isA isDocument) isNew both.appends, ?_,
    isXhtml_of_raisesBoth isMade both isRoot isHead isBody isPlain texts inside⟩
  constructor
  case row =>
    refine both.appends.row.trans ?_
    rw [show (visit.content made _ middle).world = middle from rfl, crowns.empty, List.nil_append]
  case isHtml =>
    exact (isCalled_of_made? isMade reads (by decide)).later
      (both.appends.content _ inside)
  case isHead =>
    exact (isCalled_of_made? both.onFirst.isMade (isHead.symm ▸ Draft.isReadAs_head)
      (by decide)).later both.content_first
  case isBody =>
    exact (isCalled_of_made? both.onSecond.isMade (isBody.symm ▸ Draft.isReadAs_body texts)
      (by decide)).later both.onSecond.content
  case headFills =>
    refine (both.fills_first (Nat.ne_of_gt ?_)).later among rfl
    exact Nat.lt_of_lt_of_le inside (both.appends.new _ (by simp))
  case bodyFills => exact both.fills_second.later among rfl

end Root

end Page

/-! ## The whole page -/

/-- The value is left out, or is a document without children. -/
def Forest.IsBlank (forest : Forest) (document : Value) : Prop :=
  document = .null ∨
    ∃ id, document = .node id ∧ forest.isA Content.isDocument id ∧ forest.children id = []

/-- A build is about to begin in a document without children: a new one, or the one that is
given. -/
structure Task.IsBlank (task : Task) (document : Value) (before start : Forest) : Prop where
  target : task.target = .under task.scene.document
  document : document = .null ∧ task.scene.document = before.size ∨
    document = .node task.scene.document
  intact : Intact {} start
  knows : start.KnowsDoctypes
  isDocument : start.isA Content.isDocument task.scene.document
  empty : start.children task.scene.document = []

section Compile

variable {settings : Settings} {document arguments : Value} {before start : World} {task : Task}

theorem isBlank_of_prepare (intact : Intact {} before.forest)
    (knows : before.forest.KnowsDoctypes) (blank : before.forest.IsBlank document)
    (prepared : prepare settings none document arguments before = .ok task start) :
    task.IsBlank document before.forest start.forest := by
  obtain ⟨given, read, spreads, rest⟩ := bind_eq_ok.mp prepared
  have same : read.forest = before.forest := (readsOnly_spread arguments).forest_of_ok spreads
  rw [← same] at intact knows blank ⊢
  rcases blank with rfl | ⟨id, rfl, isDocument, empty⟩
  · -- The document that is made has no children.
    cases rest
    exact
      { target := rfl, document := .inl ⟨rfl, rfl⟩, intact := intact.add _ _
        knows := knows.add_document _, isDocument := by simp [isA, content?, Content.isDocument]
        empty := by rw [children_add, children_eq_nil (Nat.le_refl _)] }
  · cases rest
    exact { target := rfl, document := .inr rfl, intact, knows, isDocument, empty }

end Compile

namespace Page

/-- The head of a page has a title at least, if only one that comes to nothing. -/
theorem headParts_ne_nil {page : Page} {marker : Marker} {parts : List Value} {world after : World}
    (run : page.headParts marker world = .ok parts after) : parts ≠ [] := by
  obtain ⟨title, _, -, run⟩ := bind_eq_ok.mp run
  obtain ⟨links, _, -, run⟩ := bind_eq_ok.mp run
  obtain ⟨metas, _, -, run⟩ := bind_eq_ok.mp run
  obtain ⟨styles, _, -, run⟩ := bind_eq_ok.mp run
  obtain ⟨scripts, _, -, run⟩ := bind_eq_ok.mp run
  cases run
  simp

end Page

/-- A page with a stylesheet, three parts of a head, and an element in the body. -/
def greetingPage : Page where
  base := .text "/"
  title := .text "Greeting"
  links := .text "about"
  content := .map [(.null, .list [.text "p", .text "Hello"])]
  stylesheet := .text "page.xsl"

end MarkupSpec
