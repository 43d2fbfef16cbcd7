import MarkupSpec.Proofs.Page.SpecAssembly
import MarkupSpec.Proofs.Spec.Regrouping
import MarkupSpec.Proofs.Value.InheritedProperties

/-!
# The draft of a page

A page without a head and a body of its own is put together from a few pieces: the text of the
stylesheet instruction, the identifiers of the doctype, the parts of the head, and the entries of
the root and of the body (`Draft`).  Whatever is given for them, the spec that comes of it is the
same sequence of maps (`Page.exists_draft`), and the name slots of these maps are read as what they
are meant for.
-/

namespace MarkupSpec

open Build

/-! ## Texts put into a map -/

/-- All keys of the entries are texts. -/
def TextKeys (entries : Entries) : Prop := ∀ entry ∈ entries, ∃ key, entry.1 = .text key

theorem TextKeys.nil : TextKeys [] := fun _ none => absurd none List.not_mem_nil

theorem TextKeys.isNull {entries : Entries} (texts : TextKeys entries) :
    ∀ entry ∈ entries, entry.1.isNull = false := fun entry among => by
  obtain ⟨key, isKey⟩ := texts entry among
  rw [isKey]
  rfl

theorem TextKeys.append {first second : Entries} (onFirst : TextKeys first)
    (onSecond : TextKeys second) : TextKeys (first ++ second) := fun entry among =>
  (List.mem_append.mp among).elim (onFirst entry) (onSecond entry)

section Put

variable {key : String} {value : Value} {entries changes : Entries}

theorem mem_put {entry : Value × Value} (among : entry ∈ Value.put (.text key) value entries) :
    entry = (.text key, value) ∨ entry ∈ entries := by
  induction entries with
  | nil => exact .inl (List.mem_singleton.mp among)
  | cons first rest ih =>
      unfold Value.put at among
      split at among
      · rename_i same
        rw [Value.sameKey_text_right.mp same] at among
        exact (List.mem_cons.mp among).imp id (List.mem_cons_of_mem _)
      · rcases List.mem_cons.mp among with rfl | later
        · exact .inr List.mem_cons_self
        · exact (ih later).imp id (List.mem_cons_of_mem _)

theorem mem_put_self : (.text key, value) ∈ Value.put (.text key) value entries := by
  induction entries with
  | nil => exact List.mem_cons_self
  | cons first rest ih =>
      unfold Value.put
      split
      · rename_i same
        rw [Value.sameKey_text_right.mp same]
        exact List.mem_cons_self
      · exact List.mem_cons_of_mem _ ih

/-- Another key keeps its value. -/
theorem mem_put_of_ne {other : Value × Value} (differ : other.1 ≠ .text key)
    (among : other ∈ entries) : other ∈ Value.put (.text key) value entries := by
  induction entries with
  | nil => cases among
  | cons first rest ih =>
      unfold Value.put
      rcases List.mem_cons.mp among with rfl | later
      · rw [if_neg fun same => differ (Value.sameKey_text_right.mp same)]
        exact List.mem_cons_self
      · split
        · exact List.mem_cons_of_mem _ later
        · exact List.mem_cons_of_mem _ (ih later)

/-- The name slot of a map is for null alone. -/
theorem lookup_null_put {other : Value} (noNull : other.isNull = false) :
    Value.lookup .null (Value.put other value entries) = Value.lookup .null entries := by
  have apart : ¬ Value.sameKey other .null := fun same => by
    rw [Value.sameKey_null_right.mp same] at noNull
    cases noNull
  induction entries with
  | nil => simp [Value.put, Value.lookup, apart]
  | cons first rest ih =>
      unfold Value.put
      split
      · rename_i same
        have noSlot : ¬ Value.sameKey first.1 .null := fun isNull => by
          rw [Value.sameKey_null_right.mp isNull] at same
          cases other <;> simp_all [Value.sameKey, Value.asInt?, Value.isNull]
        simp [Value.lookup, noSlot]
      · rw [Value.lookup, Value.lookup, ih]

theorem mem_putAll (texts : TextKeys changes) {entry : Value × Value}
    (among : entry ∈ Value.putAll changes entries) : entry ∈ changes ∨ entry ∈ entries := by
  induction changes generalizing entries with
  | nil => exact .inr among
  | cons first rest ih =>
      obtain ⟨text, new⟩ := first
      obtain ⟨key, rfl⟩ := texts _ List.mem_cons_self
      rcases ih (fun entry inside => texts entry (List.mem_cons_of_mem _ inside)) among with
        later | among
      · exact .inl (List.mem_cons_of_mem _ later)
      · rcases mem_put among with rfl | old
        · exact .inl List.mem_cons_self
        · exact .inr old

theorem lookup_null_putAll (noNull : ∀ entry ∈ changes, entry.1.isNull = false) :
    Value.lookup .null (Value.putAll changes entries) = Value.lookup .null entries := by
  induction changes generalizing entries with
  | nil => rfl
  | cons first rest ih =>
      rw [Value.putAll, ih fun entry inside => noNull entry (List.mem_cons_of_mem _ inside),
        lookup_null_put (noNull first List.mem_cons_self)]

/-- A key that is given one value only has that value. -/
theorem mem_putAll_of_forall (texts : TextKeys changes)
    (only : ∀ other, (.text key, other) ∈ changes → other = value)
    (given : (.text key, value) ∈ changes ∨ (.text key, value) ∈ entries) :
    (.text key, value) ∈ Value.putAll changes entries := by
  induction changes generalizing entries with
  | nil => exact given.resolve_left List.not_mem_nil
  | cons first rest ih =>
      obtain ⟨text, new⟩ := first
      obtain ⟨first, rfl⟩ := texts _ List.mem_cons_self
      refine ih (fun entry inside => texts entry (List.mem_cons_of_mem _ inside))
        (fun other inside => only other (List.mem_cons_of_mem _ inside)) ?_
      by_cases same : first = key
      · subst same
        rw [only new List.mem_cons_self]
        exact .inr mem_put_self
      · rcases given with given | there
        · rcases List.mem_cons.mp given with isFirst | later
          · cases isFirst
            exact absurd rfl same
          · exact .inl later
        · exact .inr (mem_put_of_ne (by simpa using Ne.symm same) there)

end Put

/-! ## Maps with a name slot and texts -/

/-- A map of a name with children that texts are put into. -/
def built (name : String) (children : List Value) (changes : Entries) : Entries :=
  Value.putAll changes [(.null, .list (.text name :: children))]

section Built

variable {marker : Marker} {name : String} {children : List Value} {changes : Entries}

theorem explicitSlot?_built (texts : TextKeys changes) :
    explicitSlot? (built name children changes) = some (.list (.text name :: children)) := by
  rw [explicitSlot?, built, lookup_null_putAll texts.isNull]
  rfl

/-- The attributes are among the texts. -/
theorem mem_of_mem_attributesOf {entries : Entries} {entry : String × Value}
    (among : entry ∈ attributesOf marker entries) : (.text entry.1, entry.2) ∈ entries := by
  obtain ⟨⟨key, value⟩, isEntry, there⟩ := List.mem_filterMap.mp among
  cases key with
  | text content =>
      dsimp only at there
      split at there
      · cases there
      · cases there
        exact isEntry
  | _ => cases there

theorem mem_attributesOf {entries : Entries} {key : String} {value : Value}
    (plain : marker.unmark? key = none) (among : (.text key, value) ∈ entries) :
    (key, value) ∈ attributesOf marker entries := by
  refine List.mem_filterMap.mpr ⟨_, among, ?_⟩
  simp [plain]

theorem mem_changes_of_mem_attributesOf (texts : TextKeys changes) {entry : String × Value}
    (among : entry ∈ attributesOf marker (built name children changes)) :
    (.text entry.1, entry.2) ∈ changes := by
  rcases mem_putAll texts (mem_of_mem_attributesOf among) with there | slot
  · exact there
  · simp at slot

end Built

/-! ## Names -/

/-- A text that begins with a letter or a digit is no special key. -/
theorem Marker.unmark?_eq_none (marker : Marker) {key : String} {first : Char} {rest : List Char}
    (chars : key.toList = first :: rest) (plain : isMarkerChar first = false) :
    marker.unmark? key = none := by
  unfold Marker.unmark?
  rw [chars]
  dsimp only
  rw [if_neg]
  rintro rfl
  rw [marker.isSymbol] at plain
  cases plain

theorem specialKind?_mark (marker : Marker) (word : String) :
    specialKind? marker (.text (marker.mark word)) = SpecialKind.ofWord? word := by
  rw [specialKind?, markedWord?, Value.text?, Option.bind_some, Marker.unmark?_mark,
    Option.bind_some]

theorem specialKind?_of_plain {marker : Marker} {name : String}
    (plain : marker.unmark? name = none) :
    specialKind? marker (.text name) = none := by
  rw [specialKind?, markedWord?, Value.text?, Option.bind_some, plain, Option.bind_none]

section Read

variable {settings : Settings} {name : String} {children : List Value} {changes entries : Entries}

/-- A map of a plain name is read as an element. -/
theorem isReadAs_element (texts : TextKeys changes) (plain : settings.marker.unmark? name = none) :
    (Value.map (built name children changes)).IsReadAs settings
      (.element (.text name) (attributesOf settings.marker (built name children changes))
        children) := by
  have slot : explicitSlot? (built name children changes) = some (.list (.text name :: children)) :=
    explicitSlot?_built texts
  have reads : (Value.map (built name children changes)).IsReadAs settings _ :=
    isReadAs_explicit slot rfl
  rwa [Spec.ofNamed, specialKind?_of_plain plain] at reads

/-- A map of an instruction is read as one. -/
theorem isReadAs_instruction : ∃ attributes,
    (Page.named (.list (.text (settings.marker.mark "pi") :: children)) entries).IsReadAs settings
      (.instruction children attributes) := by
  have reads : (Page.named (.list (.text (settings.marker.mark "pi") :: children))
      entries).IsReadAs settings _ := isReadAs_explicit rfl rfl
  rw [Spec.ofNamed, specialKind?_mark] at reads
  exact ⟨_, reads⟩

/-- A map of a doctype is read as one. -/
theorem isReadAs_doctype : ∃ attributes,
    (Page.named (.list (.text (settings.marker.mark "dtd") :: children)) entries).IsReadAs settings
      (.doctype children attributes) := by
  have reads : (Page.named (.list (.text (settings.marker.mark "dtd") :: children))
      entries).IsReadAs settings _ := isReadAs_explicit rfl rfl
  rw [Spec.ofNamed, specialKind?_mark] at reads
  exact ⟨_, reads⟩

end Read

/-! ## The page -/

namespace Page

/-- A page without a head and a body of its own, and without a spec for the stylesheet, whose
attributes of the body have texts for keys. -/
structure IsPlain (page : Page) : Prop where
  head : page.head.isTrue = false
  body : page.body.isTrue = false
  stylesheet : isMap page.stylesheet = false
  attributes : TextKeys (entriesOf page.bodyAttributes)

/-- The parts of the head in order: the title, the base, and the items. -/
def headParts (page : Page) (marker : Marker) : Build (List Value) := do
  let title ← titleSpec page.arguments page.title
  let base :=
    if page.base.isTrue then [named (.text "base") [(.text "href", page.base)]] else []
  let links ← headItems marker "link" page.links
  let metas ← headItems marker "meta" page.metas
  let styles ← headItems marker "style" page.styles
  let scripts ← headItems marker "script" page.scripts
  return title :: base ++ links ++ metas ++ styles ++ scripts

/-- The parts of the head as they come once the doctype has been put together. -/
def partsBehindDoctype (page : Page) (marker : Marker) : Build (List Value) := do
  let _ ← page.doctypeSpecs marker
  page.headParts marker

/-- The pieces that a page is put together from. -/
structure Draft where
  /-- Where the stylesheet is. -/
  href : String
  /-- The identifiers of the doctype. -/
  identifiers : List Value
  /-- The parts of the head. -/
  parts : List Value
  /-- What the root has besides its declarations. -/
  plain : Entries
  /-- How nodes are described. -/
  describe : NodeId → String

namespace Draft

variable (draft : Draft) (page : Page) (marker : Marker)

/-- The stylesheet instruction. -/
def instruction : Value :=
  named (.list [.text (marker.mark "pi"), .text "xml-stylesheet"])
    [(.text "type", .text "text/xsl"), (.text "href", .text draft.href)]

/-- The doctype. -/
def doctype : Value :=
  named (.list (.text (marker.mark "dtd") :: .text "html" :: draft.identifiers)) []

/-- The head. -/
def head : Value := .map (built "head" draft.parts [])

/-- The body. -/
def body : Value := .map (built "body" [page.content] (entriesOf page.bodyAttributes))

/-- What the root has. -/
def entries : Entries :=
  draft.plain ++ page.ownDeclarations draft.describe ++
    declarationEntries draft.describe false (entriesOf page.namespaces)

/-- The root. -/
def root : Value := .map (built "html" [draft.head, Draft.body page] (draft.entries page))

/-- What the root has besides its declarations are the attributes of a page. -/
def IsPlain : Prop :=
  ∀ entry ∈ draft.plain, entry.1 ∈ [Value.text "vocab", .text "lang", .text "prefix"]

/-- All of the page. -/
def spec : Value :=
  .list ((if page.stylesheet.isTrue then [draft.instruction marker] else []) ++
    (if page.doctype.isTrue then [draft.doctype marker] else []) ++ [draft.root page])

end Draft

theorem entriesOf_of_not_isTrue {value : Value} (notTrue : value.isTrue = false) :
    entriesOf value = [] := by
  cases value with
  | map entries =>
      simp only [Value.isTrue, Bool.not_eq_eq_eq_not, Bool.not_false, List.isEmpty_iff] at notTrue
      exact notTrue
  | _ => rfl

section Draft

variable {page : Page} {marker : Marker} {world after : World}

theorem headSpec_eq (noHead : page.head.isTrue = false) :
    page.headSpec marker =
      (fun parts => .map (built "head" parts [])) <$> page.headParts marker := by
  simp only [headSpec, noHead, headParts, map_bind, map_pure, Bool.false_eq_true, if_false]
  rfl

/-- A stylesheet that is no map is turned into an instruction. -/
theorem stylesheetSpecs_eq_ok (noMap : isMap page.stylesheet = false) {specs : List Value}
    (run : page.stylesheetSpecs marker world = .ok specs after) :
    after = world ∧ specs = if page.stylesheet.isTrue then
      [named (.list [.text (marker.mark "pi"), .text "xml-stylesheet"])
        [(.text "type", .text "text/xsl"),
          (.text "href", .text (page.stylesheet.plain world.forest.describe))]] else [] := by
  unfold stylesheetSpecs at run
  cases isTrue : page.stylesheet.isTrue with
  | false =>
      simp only [isTrue, Bool.not_false, if_true] at run
      cases run
      exact ⟨rfl, rfl⟩
  | true =>
      simp only [isTrue, noMap, Bool.not_true, Bool.false_eq_true, if_false] at run
      cases run
      exact ⟨rfl, rfl⟩

/-- A doctype has the name of the root, and maybe identifiers. -/
theorem doctypeSpecs_eq_ok {specs : List Value}
    (run : page.doctypeSpecs marker world = .ok specs after) :
    ∃ identifiers, specs = if page.doctype.isTrue then
      [named (.list (.text (marker.mark "dtd") :: .text "html" :: identifiers)) []] else [] := by
  unfold doctypeSpecs at run
  cases isTrue : page.doctype.isTrue with
  | false =>
      simp only [isTrue, Bool.not_false, if_true] at run
      cases run
      exact ⟨[], rfl⟩
  | true =>
      simp only [isTrue, Bool.not_true, Bool.false_eq_true, if_false] at run
      split at run
      all_goals
        obtain ⟨identifiers, _, -, run⟩ := bind_eq_ok.mp run
        cases run
        exact ⟨identifiers, rfl⟩

/-- The body has the content, and the attributes that are given for it. -/
theorem bodySpec_eq_ok (noBody : page.body.isTrue = false) {spec : Value}
    (run : page.bodySpec world = .ok spec after) : after = world ∧ spec = Draft.body page := by
  unfold bodySpec at run
  rw [noBody, if_neg Bool.false_ne_true] at run
  split at run
  · split at run
    · cases run
      exact ⟨rfl, rfl⟩
    · cases run
  · rename_i notTrue
    cases run
    refine ⟨rfl, ?_⟩
    rw [Draft.body, entriesOf_of_not_isTrue (by simpa using notTrue)]
    rfl

/-- More namespaces are declared by what is given for them. -/
theorem moreDeclarations_eq_ok {describe : NodeId → String} {more : Entries}
    (run : page.moreDeclarations describe world = .ok more after) :
    more = declarationEntries describe false (entriesOf page.namespaces) := by
  unfold moreDeclarations at run
  split at run
  · split at run
    · cases run
      rfl
    · cases run
  · rename_i notTrue
    cases run
    rw [entriesOf_of_not_isTrue (by simpa using notTrue)]
    rfl

theorem mem_ifTrue {key : String} {value : Value} {entry : Value × Value}
    (among : entry ∈ ifTrue key value) : entry.1 = .text key := by
  unfold ifTrue at among
  split at among
  · rw [List.mem_singleton.mp among]
  · cases among

/-- The root has its plain attributes, and then what it declares. -/
theorem rootSpec_eq_ok {head body spec : Value}
    (run : page.rootSpec head body world = .ok spec after) :
    ∃ plain : Entries,
      (∀ entry ∈ plain, entry.1 ∈ [Value.text "vocab", .text "lang", .text "prefix"]) ∧
      spec = .map (built "html" [head, body] (plain ++ page.ownDeclarations world.forest.describe ++
        declarationEntries world.forest.describe false (entriesOf page.namespaces))) := by
  unfold rootSpec at run
  obtain ⟨describe, _, found, run⟩ := bind_eq_ok.mp run
  cases found
  dsimp only at run
  let plain (vocabularies : Entries) :=
    ifTrue "vocab" page.vocabulary ++ ifTrue "lang" page.language ++ vocabularies
  -- Whatever the vocabularies are, they stand under one key.
  obtain ⟨vocabularies, keyed, middle, more, isMore, isSpec⟩ : ∃ vocabularies : Entries,
      (∀ entry ∈ vocabularies, entry.1 = .text "prefix") ∧ ∃ middle more,
        page.moreDeclarations world.forest.describe middle = .ok more after ∧
        spec = .map (built "html" [head, body]
          (plain vocabularies ++ page.ownDeclarations world.forest.describe ++ more)) := by
    split at run
    · obtain ⟨map, middle, -, run⟩ := bind_eq_ok.mp run
      rw [pure_bind] at run
      obtain ⟨more, _, isMore, run⟩ := bind_eq_ok.mp run
      cases run
      exact ⟨[(.text "prefix", map)], by simp, middle, more, isMore, rfl⟩
    · rw [pure_bind] at run
      obtain ⟨more, _, isMore, run⟩ := bind_eq_ok.mp run
      cases run
      exact ⟨[], by simp, world, more, isMore, rfl⟩
  refine ⟨plain vocabularies, fun entry among => ?_, ?_⟩
  · rcases List.mem_append.mp among with first | last
    · rcases List.mem_append.mp first with vocabulary | language
      · simp [mem_ifTrue vocabulary]
      · simp [mem_ifTrue language]
    · simp [keyed entry last]
  · rw [isSpec, moreDeclarations_eq_ok isMore]

/-- Whatever a page is made of, its spec is that of a draft. -/
theorem exists_draft (isPlain : page.IsPlain) {spec : Value}
    (run : page.spec marker world = .ok spec after) :
    ∃ (draft : Draft) (drained : World), spec = draft.spec page marker ∧
      page.partsBehindDoctype marker world = .ok draft.parts drained ∧
      draft.describe = world.forest.describe ∧ draft.IsPlain := by
  unfold Page.spec at run
  obtain ⟨sheets, sheeted, onSheet, run⟩ := bind_eq_ok.mp run
  obtain ⟨sameWorld, isSheets⟩ := stylesheetSpecs_eq_ok isPlain.stylesheet onSheet
  rw [sameWorld] at run
  obtain ⟨types, typed, onType, run⟩ := bind_eq_ok.mp run
  obtain ⟨identifiers, isTypes⟩ := doctypeSpecs_eq_ok onType
  obtain ⟨head, drained, onHead, run⟩ := bind_eq_ok.mp run
  have same : drained.forest = world.forest :=
    ((readsOnly_headSpec page marker).forest_of_ok onHead).trans
      ((readsOnly_doctypeSpecs page marker).forest_of_ok onType)
  rw [headSpec_eq isPlain.head, map_eq_pure_bind] at onHead
  obtain ⟨parts, parted, onParts, isHead⟩ := bind_eq_ok.mp onHead
  injection isHead with isHead isDrained
  subst isHead isDrained
  obtain ⟨body, bodied, onBody, run⟩ := bind_eq_ok.mp run
  obtain ⟨sameBodied, isBody⟩ := bodySpec_eq_ok isPlain.body onBody
  rw [sameBodied, isBody] at run
  obtain ⟨root, _, onRoot, run⟩ := bind_eq_ok.mp run
  obtain ⟨plain, isAttribute, isRoot⟩ := rootSpec_eq_ok onRoot
  rw [same] at isRoot
  cases run
  let draft : Draft :=
    { href := page.stylesheet.plain world.forest.describe, identifiers, parts, plain
      describe := world.forest.describe }
  refine ⟨draft, parted, ?_, bind_eq_ok.mpr ⟨types, typed, onType, onParts⟩, rfl, isAttribute⟩
  rw [isSheets, isTypes, isRoot]
  rfl

end Draft

/-! ## What the pieces are read as -/

section Keys

variable {page : Page}

theorem textKeys_declarationEntries {describe : NodeId → String} {isDefault : Bool}
    {entries : Entries} : TextKeys (declarationEntries describe isDefault entries) := by
  intro entry among
  obtain ⟨⟨key, uri⟩, -, rfl⟩ := List.mem_map.mp among
  dsimp only
  split
  · exact ⟨_, rfl⟩
  · exact ⟨_, rfl⟩

theorem textKeys_ownDeclarations {describe : NodeId → String} :
    TextKeys (page.ownDeclarations describe) := by
  unfold ownDeclarations
  split
  · exact textKeys_declarationEntries
  · split
    · intro entry among
      rcases List.mem_cons.mp among with rfl | language
      · exact ⟨_, rfl⟩
      · exact ⟨_, mem_ifTrue language⟩
    · exact TextKeys.nil

end Keys

namespace Draft

variable {draft : Draft} {page : Page} {settings : Settings}

theorem textKeys_entries (isPlain : draft.IsPlain) : TextKeys (draft.entries page) := by
  refine TextKeys.append (TextKeys.append (fun entry among => ?_) textKeys_ownDeclarations)
    textKeys_declarationEntries
  have isKey := isPlain entry among
  simp only [List.mem_cons, List.not_mem_nil, or_false] at isKey
  rcases isKey with same | same | same <;> exact ⟨_, same⟩

theorem isReadAs_root (isPlain : draft.IsPlain) : (draft.root page).IsReadAs settings
    (.element (.text "html")
      (attributesOf settings.marker
        (built "html" [draft.head, Draft.body page] (draft.entries page)))
      [draft.head, Draft.body page]) :=
  isReadAs_element (textKeys_entries isPlain) (Marker.unmark?_eq_none _ rfl (by decide))

theorem isReadAs_head : draft.head.IsReadAs settings
    (.element (.text "head") (attributesOf settings.marker (built "head" draft.parts []))
      draft.parts) :=
  isReadAs_element TextKeys.nil (Marker.unmark?_eq_none _ rfl (by decide))

theorem isReadAs_body (texts : TextKeys (entriesOf page.bodyAttributes)) :
    (Draft.body page).IsReadAs settings
      (.element (.text "body")
        (attributesOf settings.marker
          (built "body" [page.content] (entriesOf page.bodyAttributes)))
        [page.content]) :=
  isReadAs_element texts (Marker.unmark?_eq_none _ rfl (by decide))

end Draft

/-! ## What the page declares -/

/-- None of the entries that has a value declares a default namespace. -/
def DeclareNoDefault (entries : Entries) : Prop := ∀ key value, (.text key, value) ∈ entries →
  declaredQualifier? key = some none → value.isAbsent

/-- The page declares the namespace of XHTML for its own, and no other default for the root or the
body. -/
structure DeclaresXhtml (page : Page) (describe : NodeId → String) : Prop where
  isTrue : page.declaration.isTrue
  isOwn : isMap page.declaration = false
  root : DeclareNoDefault (declarationEntries describe false (entriesOf page.namespaces))
  body : DeclareNoDefault (entriesOf page.bodyAttributes)

section Declares

variable {page : Page} {draft : Draft} {marker : Marker}

theorem exists_of_mem_declarationEntries {describe : NodeId → String} {entries : Entries}
    {entry : Value × Value} (among : entry ∈ declarationEntries describe false entries) :
    ∃ name, entry.1 = .text ("xmlns:" ++ name) := by
  obtain ⟨⟨key, uri⟩, -, rfl⟩ := List.mem_map.mp among
  exact ⟨key.plain describe, rfl⟩

theorem DeclaresXhtml.ownDeclarations_eq {describe : NodeId → String}
    (declares : page.DeclaresXhtml describe) : page.ownDeclarations describe =
      (.text "xmlns", .text xhtmlNamespace) :: ifTrue "xml:lang" page.language := by
  unfold ownDeclarations
  split
  · rename_i entries isMap
    have noMap := declares.isOwn
    rw [isMap] at noMap
    cases noMap
  · rw [if_pos declares.isTrue]

variable (isPlain : draft.IsPlain) (declares : page.DeclaresXhtml draft.describe)

include isPlain declares

/-- Whatever declares a default for the root declares the namespace of XHTML or has no value. -/
theorem Draft.declares_entries {key : String} {value : Value}
    (among : (.text key, value) ∈ draft.entries page)
    (isDefault : declaredQualifier? key = some none) :
    key = "xmlns" ∧ value = .text xhtmlNamespace ∨
      value.isAbsent ∧ ∃ name, key = "xmlns:" ++ name := by
  rcases List.mem_append.mp among with first | more
  · refine .inl ?_
    rcases List.mem_append.mp first with plain | own
    · have isKey := isPlain _ plain
      simp only [List.mem_cons, Value.text.injEq, List.not_mem_nil, or_false] at isKey
      rcases isKey with rfl | rfl | rfl <;> exact absurd isDefault (by decide)
    · rw [declares.ownDeclarations_eq] at own
      rcases List.mem_cons.mp own with same | language
      · cases same
        exact ⟨rfl, rfl⟩
      · have isKey := mem_ifTrue language
        cases isKey
        exact absurd isDefault (by decide)
  · obtain ⟨name, isName⟩ := exists_of_mem_declarationEntries more
    exact .inr ⟨declares.root _ _ more isDefault, name, Value.text.inj isName⟩

/-- The root has the namespace of XHTML for an attribute. -/
theorem Draft.mem_attributesOf_root {head body : Value} : ("xmlns", .text xhtmlNamespace) ∈
    attributesOf marker (built "html" [head, body] (draft.entries page)) := by
  have isDefault : declaredQualifier? "xmlns" = some none := by decide
  refine mem_attributesOf (marker.unmark?_eq_none rfl (by decide)) ?_
  refine mem_putAll_of_forall (textKeys_entries isPlain) (fun other among => ?_) (.inl ?_)
  · rcases declares_entries isPlain declares among isDefault with ⟨-, same⟩ | ⟨-, name, same⟩
    · exact same
    · have chars := congrArg String.toList same
      simp at chars
  · refine List.mem_append_left _ (List.mem_append_right _ ?_)
    rw [declares.ownDeclarations_eq]
    exact List.mem_cons_self

end Declares

end Page

end MarkupSpec
