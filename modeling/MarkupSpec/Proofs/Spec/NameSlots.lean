import MarkupSpec.Proofs.Build.FailurePath
import MarkupSpec.Proofs.Spec.MapOrder

/-!
# Which entries a map is read by

A map is read by four things: its entry of null, its entries whose keys hold children, its entries
whose keys begin with the marker, and its attributes.  Each key is of one of these classes at most.

So a map is ambiguous exactly if several keys of the class that decides compete for its name slot.
One more attribute changes nothing but the attributes of what the map is read as (`Spec.Gains`), and
beside an explicit slot only attributes matter (`Marker.readsBeside`).  All of this is
`parse_map_slots`.
-/

namespace MarkupSpec

open Build

/-! ## What the classes of keys select -/

section Selected

variable {α β : Type} {select : α → Option β}

theorem selected_append (select : α → Option β) (front back : List (α × Value)) :
    selected select (front ++ back) = selected select front ++ selected select back :=
  List.filterMap_append

theorem selected_cons_of_none {key : α} (none : select key = none) (value : Value)
    (entries : List (α × Value)) :
    selected select ((key, value) :: entries) = selected select entries := by
  simp [selected, none]

theorem selected_cons_of_some {key : α} {found : β} (isFound : select key = some found)
    (value : Value) (entries : List (α × Value)) :
    selected select ((key, value) :: entries) = (found, value) :: selected select entries := by
  simp [selected, isFound]

theorem selected_eq_nil_iff {entries : List (α × Value)} :
    selected select entries = [] ↔ ∀ entry ∈ entries, select entry.1 = none := by
  simp [selected]

/-- Entries that are not selected may be left out. -/
theorem selected_filter {keep : α → Bool} (covers : ∀ key, (select key).isSome → keep key)
    (entries : List (α × Value)) :
    selected select (entries.filter fun entry => keep entry.1) = selected select entries := by
  induction entries with
  | nil => rfl
  | cons entry rest ih =>
      obtain ⟨key, value⟩ := entry
      rw [List.filter_cons]
      cases isFound : select key with
      | none =>
          rw [selected_cons_of_none isFound]
          split
          · rw [selected_cons_of_none isFound, ih]
          · exact ih
      | some found =>
          rw [if_pos (covers key (by rw [isFound]; rfl)), selected_cons_of_some isFound,
            selected_cons_of_some isFound, ih]

end Selected

/-- The key of null. -/
def nullKey? (key : Value) : Option Unit := if key.isNull then some () else none

/-- What null stands for is in the first entry with that key. -/
theorem lookup_null_eq_selected (entries : Entries) :
    Value.lookup .null entries = (selected nullKey? entries).head?.map Prod.snd := by
  induction entries with
  | nil => rfl
  | cons entry rest ih =>
      obtain ⟨key, value⟩ := entry
      rw [Value.lookup]
      by_cases isNull : key = .null
      · subst isNull
        rfl
      · have other : nullKey? key = none := by cases key <;> simp_all [nullKey?, Value.isNull]
        rw [if_neg (mt Value.sameKey_null_right.mp isNull), ih, selected_cons_of_none other]

/-- Where no key is null, there is no explicit slot. -/
theorem explicitSlot?_eq_none {entries : Entries}
    (noNull : ∀ entry ∈ entries, entry.1.isNull = false) : explicitSlot? entries = none := by
  have none : selected nullKey? entries = [] := selected_eq_nil_iff.mpr fun entry among => by
    rw [nullKey?, noNull entry among, if_neg Bool.false_ne_true]
  rw [explicitSlot?, lookup_null_eq_selected, none]
  rfl

/-- The entries that could be the name slot of two maps are the same. -/
structure SameSlots (marker : Marker) (entries entries' : Entries) : Prop where
  null : selected nullKey? entries' = selected nullKey? entries
  compact : selected compactKey? entries' = selected compactKey? entries
  marked : selected (markedWord? marker) entries' = selected (markedWord? marker) entries

namespace SameSlots

variable {marker : Marker} {entries entries' : Entries} (same : SameSlots marker entries entries')

include same

theorem lookup : Value.lookup .null entries' = Value.lookup .null entries := by
  rw [lookup_null_eq_selected, lookup_null_eq_selected, same.null]

theorem nameSlot : nameSlot marker entries' = nameSlot marker entries := by
  unfold MarkupSpec.nameSlot explicitSlot?
  rw [same.lookup, compactEntries_eq_selected, compactEntries_eq_selected, same.compact,
    markedEntries_eq_selected, markedEntries_eq_selected, same.marked]

end SameSlots

/-! ## Ambiguous maps -/

section Ambiguous

variable {settings : Settings} {marker : Marker} {entries : Entries} {form : String}
  {keys : List Value} {path : List String} {world : World}

theorem parse_map (isThere : entries ≠ []) (path : List String) :
    parse settings path (.map entries) =
      (do return some (← parseMap settings path entries)) := by
  unfold parse
  rw [absent_map isThere, pure_bind, if_neg Bool.false_ne_true]

/-- A map whose keys compete for its name slot is ambiguous. -/
theorem ambiguous_of_competing (competing : Visit.Competing marker form keys entries) :
    nameSlot marker entries = .ambiguous form keys := by
  obtain ⟨noSlot, several, ⟨rfl, rfl⟩ | ⟨rfl, noCompact, rfl⟩⟩ := competing
  · unfold nameSlot
    rw [noSlot]
    match compactEntries entries, several with
    | first :: second :: rest, _ => rfl
  · rw [← map_markedEntries] at several ⊢
    unfold nameSlot
    rw [noSlot, noCompact]
    match markedEntries marker entries, several with
    | first :: second :: rest, _ => rfl

/-- Does the cause lie in a spec, or in where that is to go? -/
def Failure.isOfSpec : Failure → Bool
  | .spec _ => true
  | _ => false

/-- The step does not fail for a cause that lies in the spec. -/
def Unspecific {α : Type} (step : Build α) : Prop :=
  ∀ world, Ensures step world (fun _ _ => True) fun cause _ => cause.isOfSpec = false

theorem unspecific_pure {α : Type} (result : α) : Unspecific (pure result : Build α) :=
  fun _ => trivial

theorem Unspecific.bind {α β : Type} {first : Build α} {next : α → Build β}
    (onFirst : Unspecific first) (onNext : ∀ result, Unspecific (next result)) :
    Unspecific (first >>= next) := by
  intro world
  rw [ensures_bind]
  exact (onFirst world).mono (fun result after _ => onNext result after) fun _ _ => id

theorem unspecific_absent (value : Value) : Unspecific (absent value) := by
  unfold absent
  split
  · exact unspecific_pure _
  · exact fun _ => rfl

theorem unspecific_members (value : Value) : Unspecific (members value) := by
  cases value with
  | range start stop step =>
      unfold members rangeMembers
      dsimp only
      split
      · exact fun _ => rfl
      · split
        · exact fun _ => rfl
        · exact unspecific_pure _
  | _ => exact fun _ => trivial

theorem unspecific_readExplicit (slot : Value) : Unspecific (readExplicit slot) := by
  unfold readExplicit
  split
  · refine (unspecific_members slot).bind fun items => ?_
    cases items <;> exact unspecific_pure _
  · exact unspecific_pure _

theorem unspecific_readMarked (marker : Marker) (word : String) (value : Value) :
    Unspecific (readMarked marker word value) := by
  unfold readMarked asChildren
  split
  · exact unspecific_pure _
  · refine Unspecific.bind ?_ fun _ => unspecific_pure _
    split
    · exact unspecific_pure _
    · split
      · exact unspecific_members value
      · exact unspecific_pure _

/-- Only where its name slot is ambiguous a map is refused for what is in it. -/
theorem ambiguous_of_parseMap {error : SpecError} {after : World}
    (run : parseMap settings path entries world = .error (.spec error) after) :
    ∃ form keys, nameSlot settings.marker entries = .ambiguous form keys ∧
      error.cause = .ambiguousMap form keys := by
  have refutes {α : Type} {step : Build α} {start : World} (unspecific : Unspecific step)
      (fails : step start = .error (.spec error) after) : False := by
    have ofSpec := (unspecific start).of_error fails
    cases ofSpec
  unfold parseMap at run
  rcases bind_eq_error.mp run with fails | ⟨_, middle, -, run⟩
  · have counts : Unspecific (discard (absent ((Value.lookup .null entries).getD .null))) :=
      fun world => ensures_discard.mpr (unspecific_absent _ world)
    exact (refutes counts fails).elim
  · cases slots : nameSlot settings.marker entries with
    | explicit slot =>
        rw [slots] at run
        exact (refutes ((unspecific_readExplicit _).bind fun _ => unspecific_pure _) run).elim
    | marked word value =>
        rw [slots] at run
        exact (refutes ((unspecific_readMarked _ _ _).bind fun _ => unspecific_pure _) run).elim
    | compact | missing =>
        rw [slots] at run
        cases run
    | ambiguous form keys =>
        rw [slots] at run
        cases run
        exact ⟨form, keys, rfl, rfl⟩

/-- A map whose name slot is ambiguous is refused for that. -/
theorem parseMap_of_ambiguous (slots : nameSlot settings.marker entries = .ambiguous form keys) :
    ∃ error, parseMap settings path entries world = .error (.spec error) world ∧
      error.cause = .ambiguousMap form keys := by
  have noSlot : explicitSlot? entries = none := (competing_of_ambiguous slots).1
  unfold parseMap
  dsimp only
  rw [absent_of_explicitSlot? noSlot, slots]
  exact ⟨_, rfl, rfl⟩

end Ambiguous

/-! ## One more attribute -/

/-- The second spec has one attribute more than the first one, if it is of a kind that has
attributes.  All else is the same. -/
inductive Spec.Gains (key : String) (value : Value) : Spec → Spec → Prop
  | element {name children front back} :
      Gains key value (.element name (front ++ back) children)
        (.element name (front ++ (key, value) :: back) children)
  | comment {children} : Gains key value (.comment children) (.comment children)
  | cdata {children} : Gains key value (.cdata children) (.cdata children)
  | instruction {children front back} :
      Gains key value (.instruction children (front ++ back))
        (.instruction children (front ++ (key, value) :: back))
  | doctype {children front back} :
      Gains key value (.doctype children (front ++ back))
        (.doctype children (front ++ (key, value) :: back))

theorem Spec.gains_ofNamed (marker : Marker) (name : Value) (children : List Value)
    (front back : RawAttributes) (key : String) (value : Value) :
    (Spec.ofNamed marker name children (front ++ back)).Gains key value
      (Spec.ofNamed marker name children (front ++ (key, value) :: back)) := by
  unfold Spec.ofNamed
  split
  · exact .comment
  · exact .cdata
  · exact .instruction
  · exact .doctype
  · exact .element

/-- Runs with the same end, but for the value that is quoted where a spec is refused. -/
def sameButQuotes : Likeness Failure World where
  excuse _ := False
  causes cause cause' := cause' = cause ∨ ∃ error error', cause = .spec error ∧
    cause' = .spec error' ∧ error'.cause = error.cause ∧ error'.level = error.level
  states world world' := world' = world

theorem echo_refl {α : Type} (step : Build α) : Echo sameButQuotes Eq step step :=
  Echo.refl eq_comm (fun _ => Or.inl rfl) step

section Attribute

variable {settings : Settings} {path : List String} {front back : Entries} {key : String}
  {value : Value}

theorem sameSlots_of_attribute {marker : Marker} (plain : marker.unmark? key = none) :
    SameSlots marker (front ++ back) (front ++ (.text key, value) :: back) where
  null := by rw [selected_append, selected_append, selected_cons_of_none rfl]
  compact := by rw [selected_append, selected_append, selected_cons_of_none rfl]
  marked := by
    have unmarked : markedWord? marker (.text key) = none := plain
    rw [selected_append, selected_append, selected_cons_of_none unmarked]

theorem attributesOf_insert {marker : Marker} (plain : marker.unmark? key = none) :
    attributesOf marker (front ++ (.text key, value) :: back) =
      attributesOf marker front ++ (key, value) :: attributesOf marker back := by
  have isKey : attributeKey? marker (.text key) = some key := by
    simp [attributeKey?, Value.text?, plain]
  simp only [attributesOf_eq_selected, selected_append, selected_cons_of_some isKey]

/-- A map with one more attribute is read in the same way, as the same with that attribute. -/
theorem echo_parseMap_insert (plain : settings.marker.unmark? key = none) :
    Echo sameButQuotes (Spec.Gains key value) (parseMap settings path (front ++ back))
      (parseMap settings path (front ++ (.text key, value) :: back)) := by
  have same : SameSlots settings.marker (front ++ back) (front ++ (.text key, value) :: back) :=
    sameSlots_of_attribute plain
  have gains (name : Value) (children : List Value) :
      Echo sameButQuotes (Spec.Gains key value)
        (pure (.ofNamed settings.marker name children
          (attributesOf settings.marker (front ++ back))) : Build Spec)
        (pure (.ofNamed settings.marker name children
          (attributesOf settings.marker (front ++ (.text key, value) :: back)))) := by
    refine Echo.pure ?_
    rw [attributesOf_insert plain, attributesOf_eq_selected, selected_append,
      ← attributesOf_eq_selected, ← attributesOf_eq_selected]
    exact Spec.gains_ofNamed ..
  unfold parseMap
  dsimp only
  rw [same.lookup, same.nameSlot]
  refine (echo_refl _).bind_same fun _ => ?_
  split
  · exact (echo_refl _).bind_same fun named => gains named.1 named.2
  · exact gains _ _
  · exact (echo_refl _).bind_same fun named => gains named.1 named.2
  · exact gains _ _
  · have shown : Echo sameButQuotes (fun _ _ => True)
        (quoted (.map (front ++ back))) (quoted (.map (front ++ (.text key, value) :: back))) := by
      rintro world _ rfl
      exact .ok trivial rfl
    refine shown.bind fun _ _ _ => ?_
    exact Echo.throw (.inr ⟨_, _, rfl, rfl, rfl, rfl⟩)

end Attribute

/-! ## Beside an explicit slot -/

/-- Is a map with an explicit slot read by the key?  It is if the key is that of the slot, or a text
that does not begin with the marker. -/
def Marker.readsBeside (marker : Marker) (key : Value) : Bool :=
  key.isNull || (attributeKey? marker key).isSome

section Beside

variable {settings : Settings} {path : List String} {entries entries' : Entries}

/-- Maps with the same explicit slot and the same attributes are read alike, whatever their other
keys are. -/
theorem parse_of_readsBeside (explicit : (explicitSlot? entries).isSome)
    (same : (entries'.filter fun entry => settings.marker.readsBeside entry.1) =
      entries.filter fun entry => settings.marker.readsBeside entry.1) :
    parse settings path (.map entries') = parse settings path (.map entries) := by
  have nulls : ∀ key, (nullKey? key).isSome → settings.marker.readsBeside key := by
    intro key isNull
    unfold nullKey? at isNull
    unfold Marker.readsBeside
    cases there : key.isNull with
    | true => rfl
    | false => simp [there] at isNull
  have plain : ∀ key, (attributeKey? settings.marker key).isSome →
      settings.marker.readsBeside key := by
    intro key isKey
    rw [Marker.readsBeside, isKey, Bool.or_true]
  have looked : Value.lookup .null entries' = Value.lookup .null entries := by
    rw [lookup_null_eq_selected, lookup_null_eq_selected, ← selected_filter nulls entries', same,
      selected_filter nulls]
  have attributes : attributesOf settings.marker entries' = attributesOf settings.marker entries := by
    rw [attributesOf_eq_selected, attributesOf_eq_selected, ← selected_filter plain entries', same,
      selected_filter plain]
  obtain ⟨slot, isSlot⟩ := Option.isSome_iff_exists.mp explicit
  have isSlot' : explicitSlot? entries' = some slot := by
    unfold explicitSlot? at isSlot ⊢
    rw [looked, isSlot]
  have isThere {others : Entries} (isSlot : explicitSlot? others = some slot) : others ≠ [] := by
    rintro rfl
    cases isSlot
  have slots {others : Entries} (isSlot : explicitSlot? others = some slot) :
      nameSlot settings.marker others = .explicit slot := by
    unfold nameSlot
    rw [isSlot]
  rw [parse_map (isThere isSlot), parse_map (isThere isSlot')]
  unfold parseMap
  dsimp only
  rw [looked, attributes, slots isSlot, slots isSlot']

end Beside

/-! ## Reading maps -/

/-- How the entries of a map that is not empty are told apart.  Reading it fails for competing keys
exactly if there are several keys of the class that decides, and names all of them in their order.
One more entry for an attribute, wherever it stands, is one more attribute of what is read, and
nothing else; if reading fails, it still does, for the same cause.  Beside an explicit slot all
entries may come and go but those for attributes. -/
theorem parse_map_slots (settings : Settings) (path : List String) {entries : Entries}
    (isThere : entries ≠ []) :
    (∀ world form keys,
      (∃ error after, parse settings path (.map entries) world = .error (.spec error) after ∧
        error.cause = .ambiguousMap form keys) ↔
        Visit.Competing settings.marker form keys entries) ∧
    (∀ front back key value, entries = front ++ back → settings.marker.unmark? key = none →
      Echo sameButQuotes
        (fun read read' => ∃ spec spec', read = some spec ∧ read' = some spec' ∧
          spec.Gains key value spec')
        (parse settings path (.map entries))
        (parse settings path (.map (front ++ (.text key, value) :: back)))) ∧
    ∀ entries', (explicitSlot? entries).isSome →
      (entries'.filter fun entry => settings.marker.readsBeside entry.1) =
        (entries.filter fun entry => settings.marker.readsBeside entry.1) →
      parse settings path (.map entries') = parse settings path (.map entries) := by
  refine ⟨fun world form keys => ⟨?_, fun competing => ?_⟩, ?_, fun _ => parse_of_readsBeside⟩
  · rintro ⟨error, after, run, cause⟩
    rw [parse_map isThere] at run
    rcases bind_eq_error.mp run with run | ⟨_, _, -, run⟩
    · obtain ⟨_, _, slots, cause'⟩ := ambiguous_of_parseMap run
      rw [cause] at cause'
      cases cause'
      exact competing_of_ambiguous slots
    · cases run
  · rw [parse_map isThere]
    have fails : ∃ error, parseMap settings path entries world = .error (.spec error) world ∧
        error.cause = .ambiguousMap form keys :=
      parseMap_of_ambiguous (ambiguous_of_competing competing)
    obtain ⟨error, run, cause⟩ := fails
    exact ⟨error, world, bind_eq_error.mpr (.inl run), cause⟩
  · rintro front back key value rfl plain
    rw [parse_map isThere, parse_map (by simp)]
    refine (echo_parseMap_insert plain).bind fun spec spec' gains => ?_
    exact Echo.pure ⟨spec, spec', rfl, rfl, gains⟩

/-- The entries of a map in which two keys compete, as what null stands for is absent. -/
def contested : Entries :=
  [(.null, .text ""), (.tuple [.int 1], .text "p"), (.text "id", .int 1), (.node 0, .text "q"),
    (.text "#b", .null)]

/-- The entries of a map with an explicit slot. -/
def settled : Entries := [(.null, .list [.text "p", .text "c"]), (.text "id", .int 1)]

/-- The first map is refused for both keys.  In the second one keys that could be slots change
nothing, and one more attribute comes behind the one that it has. -/
theorem parse_map_slots_contested :
    contested ≠ [] ∧ settled ≠ [] ∧ (explicitSlot? settled).isSome ∧
    (∃ error after, parse {} rootPath (.map contested) {} = .error (.spec error) after ∧
      error.cause = .ambiguousMap "compact" [.tuple [.int 1], .node 0]) ∧
    parse {} rootPath (.map ((.tuple [], .null) :: (.int 1, .null) :: settled)) =
      parse {} rootPath (.map settled) ∧
    ∃ spec', parse {} rootPath (.map (settled ++ [(.text "k", .null)])) {} =
        .ok (some spec') {} ∧
      (Spec.element (.text "p") [("id", .int 1)] [.text "c"]).Gains "k" .null spec' := by
  have isThere : contested ≠ [] := List.cons_ne_nil _ _
  have isThere' : settled ≠ [] := List.cons_ne_nil _ _
  have explicit : (explicitSlot? settled).isSome := by decide
  obtain ⟨refused, -, -⟩ := parse_map_slots {} rootPath isThere
  obtain ⟨-, gains, beside⟩ := parse_map_slots {} rootPath isThere'
  have competing : Visit.Competing Marker.usual "compact" [.tuple [.int 1], .node 0] contested :=
    ⟨rfl, by decide, .inl ⟨rfl, rfl⟩⟩
  refine ⟨isThere, isThere', explicit, (refused {} _ _).mpr competing, beside _ explicit rfl, ?_⟩
  have echoes := gains settled [] "k" .null (List.append_nil _).symm (by decide) {} {} rfl
  have reads : parse {} rootPath (.map settled) {} =
      .ok (some (.element (.text "p") [("id", .int 1)] [.text "c"])) {} := rfl
  rw [reads] at echoes
  obtain ⟨_, after, run, ⟨_, spec', isSpec, rfl, gained⟩, same⟩ := echoes.of_ok
  cases isSpec
  obtain rfl : after = {} := same
  exact ⟨spec', run, gained⟩

end MarkupSpec
