import MarkupSpec.Proofs.Build.FailurePath
import MarkupSpec.Proofs.Namespace.ResolverResult

/-!
# The attributes of a created element

The main statement is `compile_attributes`.  An attribute is found by its namespace and its local
name.  If those of an element are all different (`Resolution.KeepsApart`), setting one never comes
upon another: each is appended, and none is lost.  So the element has exactly its declarations and
then its plain attributes, both in order (`Listed`), and keeps them to the end of the build.
-/

namespace MarkupSpec

open Forest Edit Build

/-! ## Setting attributes that are apart -/

/-- What the attribute that is set is found by. -/
def Attribute.Entry.slot (entry : Attribute.Entry) : Option String × String :=
  (entry.namespaceUri, (Text.splitColon entry.name).2)

/-- The attribute that is set where there is none yet. -/
def Attribute.ofEntry (entry : Attribute.Entry) : Attribute :=
  .ofName entry.namespaceUri entry.name entry.value

/-- A tag with new attributes for these entries, and no others. -/
def Tag.withEntries (tag : Tag) (entries : List Attribute.Entry) : Tag :=
  { tag with attributes := entries.map Attribute.ofEntry }

/-- Setting an attribute that is apart from the others appends it. -/
theorem Tag.put_of_apart {tag : Tag} (lost : tag.lost = []) {entries : List Attribute.Entry}
    {entry : Attribute.Entry}
    (apart : ∀ other ∈ entries, other.slot ≠ entry.slot ∧ other.name ≠ entry.name) :
    (tag.withEntries entries).put entry.namespaceUri entry.name entry.value =
      (.ok (), tag.withEntries (entries ++ [entry])) := by
  have notFound : (tag.withEntries entries).find? entry.namespaceUri
      (Text.splitColon entry.name).2 = none := by
    rw [find?, withEntries, lost, List.append_nil, List.find?_eq_none]
    intro attr among isAt
    obtain ⟨other, member, rfl⟩ := List.mem_map.mp among
    refine (apart other member).1 (Prod.ext ?_ ?_)
    · exact beq_iff_eq.mp (Bool.and_eq_true_iff.mp isAt).1
    · exact beq_iff_eq.mp (Bool.and_eq_true_iff.mp isAt).2
  have differ : ∀ attr ∈ entries.map Attribute.ofEntry, attr.key ≠ entry.name := by
    intro attr among
    obtain ⟨other, member, rfl⟩ := List.mem_map.mp among
    exact (apart other member).2
  have room : (tag.withEntries entries).makeRoom entry.name = .ok (tag.withEntries entries) := by
    have none : (tag.withEntries entries).attributes.find? (·.key == entry.name) = none := by
      rw [List.find?_eq_none]
      intro attr among
      simpa using differ attr among
    simp only [makeRoom, none]
  have appended : append (Attribute.ofEntry entry) (entries.map Attribute.ofEntry) =
      (entries ++ [entry]).map Attribute.ofEntry := by
    rw [append_of_forall_ne differ]
    simp
  simp only [put, notFound, room]
  exact congrArg (fun attributes => (Except.ok (), { tag with attributes })) appended

/-- Setting attributes that are apart appends them one by one. -/
theorem Tag.putAll_of_apart {tag : Tag} (lost : tag.lost = []) :
    ∀ rest entries : List Attribute.Entry,
      ((entries ++ rest).map Attribute.Entry.slot).Nodup →
      ((entries ++ rest).map Attribute.Entry.name).Nodup →
      (tag.withEntries entries).putAll rest = (.ok (), tag.withEntries (entries ++ rest))
  | [], entries, _, _ => by
      rw [List.append_nil]
      rfl
  | entry :: rest, entries, slots, names => by
      have apart : ∀ other ∈ entries, other.slot ≠ entry.slot ∧ other.name ≠ entry.name := by
        intro other among
        rw [List.map_append, List.nodup_append] at slots names
        exact ⟨slots.2.2 _ (List.mem_map_of_mem among) _ (by simp),
          names.2.2 _ (List.mem_map_of_mem among) _ (by simp)⟩
      have whole : entries ++ entry :: rest = entries ++ [entry] ++ rest := by simp
      rw [whole] at slots names ⊢
      rw [← putAll_of_apart lost rest _ slots names]
      simp only [putAll, put_of_apart lost apart]

/-! ## The attributes of a resolution -/

/-- The declarations and the plain attributes of an element, as they are set. -/
def Resolution.entries (resolution : Resolution) : List Attribute.Entry :=
  resolution.declaredInOrder.map Attribute.Entry.declaring ++ resolution.setting

/-- No two of the declarations and the plain attributes have the same namespace and local name. -/
def Resolution.KeepsApart (resolution : Resolution) : Prop :=
  (resolution.entries.map Attribute.Entry.slot).Nodup

instance (resolution : Resolution) : Decidable resolution.KeepsApart :=
  inferInstanceAs (Decidable (List.Nodup _))

/-- A qualifier that some key declares is a line, and not empty. -/
theorem line_of_declaredQualifier? {key text : String}
    (declares : declaredQualifier? key = some (some text)) : '\n' ∉ text.toList ∧ text ≠ "" := by
  unfold declaredQualifier? at declares
  split at declares
  · cases declares
  · cases declares
  · obtain ⟨line, isLine, isText⟩ := Option.map_eq_some_iff.mp declares
    split at isText
    · cases isText
    · rename_i nonempty
      cases isText
      unfold singleLine? at isLine
      dsimp only at isLine
      split at isLine
      · cases isLine
      · rename_i noFeed
        cases isLine
        refine ⟨by simpa using noFeed, fun isEmpty => nonempty ?_⟩
        simpa using isEmpty
  · cases declares

/-- A qualifier that some key declares is declared by its own key too. -/
theorem declaredQualifier?_declarationKey {key : String} {qualifier : Option String}
    (declares : declaredQualifier? key = some qualifier) :
    declaredQualifier? (declarationKey qualifier) = some qualifier := by
  cases qualifier with
  | none => decide
  | some text =>
      obtain ⟨noFeed, nonempty⟩ := line_of_declaredQualifier? declares
      have chars : (declarationKey (some text)).toList =
          'x' :: 'm' :: 'l' :: 'n' :: 's' :: ':' :: text.toList := by
        simp [declarationKey]
      simp [declaredQualifier?, chars, afterXmlns?, matchesLetter, singleLine?_of_not_mem noFeed,
        nonempty]

section Exact

variable {name : String} {entries : List (String × String)}
  {scope : Option String → Option String} {resolution : Resolution}

/-- The namespace of a plain attribute: that which its qualifier stands for, if it has one.  An
empty one is none. -/
def attributeSpace (entries : List (String × String)) (scope : Option String → Option String)
    (key : String) : Option String :=
  match (splitQualified key).1 with
  | none => none
  | some qualifier =>
      if some qualifier = xmlQualifier then some xmlNamespace
      else ((declaredFor entries (some qualifier)).or (scope (some qualifier))).filter (· != "")

/-- The attributes are those that flattened attributes declare, the default first and then by
qualifier, and after these the plain ones by key, each once. -/
structure Listed (entries : List (String × String)) (scope : Option String → Option String)
    (declared : List (Option String × String)) (plain : List (String × String))
    (attributes : List Attribute) : Prop where
  whole : attributes = declared.map Attribute.declaring ++
    plain.map fun entry => .ofName (attributeSpace entries scope entry.1) entry.1 entry.2
  declares : Tabulates declared fun qualifier uri => declaredFor entries qualifier = some uri
  /-- The default counts as the empty text. -/
  declaredOrder : declared.Pairwise fun first second => first.1.getD "" < second.1.getD ""
  isPlain : plain.Perm (plainEntries entries)
  plainOrder : plain.Pairwise fun first second => first.1 < second.1

theorem Tabulates.lookup {κ ν : Type} [BEq κ] [LawfulBEq κ] {table : List (κ × ν)}
    {relation : κ → ν → Prop} (tabulates : Tabulates table relation) (key : κ) (value : ν) :
    table.lookup key = some value ↔ relation key value := by
  rw [lookup_eq_some_iff_mem tabulates.distinct, tabulates.mem_iff]

theorem attributeNamespace_eq (exact : resolution.Exact name entries scope)
    {entry : String × String} (among : entry ∈ plainEntries entries) :
    resolution.attributeNamespace entry.1 = attributeSpace entries scope entry.1 := by
  unfold Resolution.attributeNamespace attributeSpace
  cases qualified : (splitQualified entry.1).1 with
  | none => rfl
  | some qualifier =>
      dsimp only
      split
      · rfl
      · rename_i noXml
        have used : some qualifier ∈ usedQualifiers name entries := by
          refine List.mem_filter.mpr ⟨List.mem_map.mpr ⟨entry.1, ?_, qualified⟩, by simpa using noXml⟩
          exact List.mem_cons_of_mem _ (List.mem_map_of_mem among)
        have same : resolution.bindings.lookup (some qualifier) =
            (declaredFor entries (some qualifier)).or (scope (some qualifier)) := by
          refine Option.ext fun uri => ?_
          rw [exact.bindings.lookup]
          cases declaredFor entries (some qualifier) <;> simp [used]
        rw [same]

/-- What a qualifier stands for by a declaration is declared by a key. -/
theorem exists_of_declaredFor {qualifier : Option String} {uri : String}
    (declares : declaredFor entries qualifier = some uri) :
    ∃ key, declaredQualifier? key = some qualifier := by
  unfold declaredFor at declares
  split at declares
  · cases declares
  · obtain ⟨entry, among, -⟩ := List.mem_map.mp (List.mem_of_getLast? declares)
    exact ⟨entry.1, by simpa using (List.mem_filter.mp among).2⟩

section Apart

variable (exact : resolution.Exact name entries scope)

include exact

/-- Different declarations have different texts to go by. -/
theorem nodup_texts : (resolution.declarations.map fun entry => entry.1.getD "").Nodup := by
  have nonempty : ∀ qualifier ∈ resolution.declarations.map Prod.fst, qualifier ≠ some "" := by
    rintro _ among isEmpty
    obtain ⟨⟨qualifier, uri⟩, member, rfl⟩ := List.mem_map.mp among
    obtain ⟨key, declares⟩ := exists_of_declaredFor ((exact.declarations.mem_iff _ uri).mp member)
    dsimp only at isEmpty
    exact (line_of_declaredQualifier? (isEmpty ▸ declares)).2 rfl
  have texts := exact.declarations.distinct.map_on fun first isFirst second isSecond
      (same : first.getD "" = second.getD "") => show first = second by
    have isFirst := nonempty first isFirst
    have isSecond := nonempty second isSecond
    cases first <;> cases second <;> simp_all
  rwa [List.map_map] at texts

omit exact in
/-- Plain attributes that are apart have different keys. -/
theorem nodup_keys (apart : resolution.KeepsApart) :
    ((Text.sortByText Prod.fst resolution.attributes).map Prod.fst).Nodup := by
  unfold Resolution.KeepsApart Resolution.entries at apart
  rw [List.map_append, List.nodup_append] at apart
  let slotOf (key : String) : Option String × String :=
    (resolution.attributeNamespace key, (Text.splitColon key).2)
  refine List.Nodup.of_map slotOf ?_
  rw [List.map_map]
  have slots := apart.2.1
  rwa [Resolution.setting, List.map_map] at slots

/-- The names that attributes are set by are different if the attributes are apart. -/
theorem nodup_names (apart : resolution.KeepsApart) :
    (resolution.entries.map Attribute.Entry.name).Nodup := by
  have declared : resolution.declaredInOrder.Perm resolution.declarations := Text.perm_sortByText _ _
  have plain : (Text.sortByText Prod.fst resolution.attributes).Perm resolution.attributes :=
    Text.perm_sortByText _ _
  unfold Resolution.entries Resolution.setting
  rw [List.map_append, List.map_map, List.map_map, List.nodup_append]
  refine ⟨?_, nodup_keys apart, ?_⟩
  · have distinct := ((declared.map Prod.fst).nodup_iff.mpr exact.declarations.distinct).map
      (fun first second same => declarationKey_injective same)
    rwa [List.map_map] at distinct
  · -- A name of a declaration declares something, and so is no plain key.
    rintro _ isDeclared _ isPlain rfl
    obtain ⟨⟨qualifier, uri⟩, member, isName⟩ := List.mem_map.mp isDeclared
    obtain ⟨key, declares⟩ := exists_of_declaredFor
      ((exact.declarations.mem_iff _ uri).mp (declared.mem_iff.mp member))
    obtain ⟨entry, among, isKey⟩ := List.mem_map.mp isPlain
    have silent := (List.mem_filter.mp (exact.attributes ▸ plain.mem_iff.mp among)).2
    have same : entry.1 = declarationKey qualifier := isKey.trans isName.symm
    rw [same, declaredQualifier?_declarationKey declares] at silent
    cases silent

/-- The attributes that are set one by one are listed. -/
theorem listed_entries (apart : resolution.KeepsApart) :
    Listed entries scope resolution.declaredInOrder (Text.sortByText Prod.fst resolution.attributes)
      (resolution.entries.map Attribute.ofEntry) where
  whole := by
    unfold Resolution.entries Resolution.setting
    rw [List.map_append, List.map_map, List.map_map]
    refine congrArg₂ _ rfl (List.map_congr_left fun entry among => ?_)
    rw [Text.mem_sortByText, exact.attributes] at among
    rw [← attributeNamespace_eq exact among]
    rfl
  declares :=
    { distinct := by
        have declared : resolution.declaredInOrder.Perm resolution.declarations :=
          Text.perm_sortByText _ _
        exact (declared.map Prod.fst).nodup_iff.mpr exact.declarations.distinct
      mem_iff := fun qualifier uri => by
        rw [← exact.declarations.mem_iff]
        exact Text.mem_sortByText }
  declaredOrder := strict_sortByText (nodup_texts exact)
  isPlain := exact.attributes ▸ Text.perm_sortByText _ _
  plainOrder := by
    have plain : (Text.sortByText Prod.fst resolution.attributes).Perm resolution.attributes :=
      Text.perm_sortByText _ _
    exact strict_sortByText ((plain.map Prod.fst).nodup_iff.mp (nodup_keys apart))

/-- The tag of a resolution whose attributes are apart has exactly these. -/
theorem tag_of_apart (apart : resolution.KeepsApart) :
    resolution.tag = (.ok (), (Tag.ofName resolution.name resolution.elementNamespace).withEntries
      resolution.entries) := by
  have bare : (Tag.ofName resolution.name resolution.elementNamespace).lost = [] := rfl
  exact Tag.putAll_of_apart bare resolution.entries [] apart (nodup_names exact apart)

end Apart

end Exact

/-! ## The attributes of a visit -/

section Making

variable {scene : Scene} {visit : Visit} {made : Made} {after : World}

/-- An element has its tag when it is created. -/
theorem tag_of_createResolved {resolution : Resolution} {element : NodeId} {world created : World}
    (creates : edit (createResolved scene.document resolution) world = .ok element created) :
    ∃ tag, resolution.tag = (.ok (), tag) ∧
      created.forest.content? element = some (.element tag) := by
  have tagged : Ensures (edit (createResolved scene.document resolution)) world
      (fun element created => ∃ tag, resolution.tag = (.ok (), tag) ∧
        created.forest.content? element = some (.element tag)) fun _ _ => True := by
    rw [ensures_edit, ensures_createResolved]
    refine ⟨fun _ => ?_, fun _ => trivial⟩
    split
    · rename_i tag isTag
      exact ⟨tag, isTag, by simp [content?]⟩
    · trivial
  exact tagged.of_ok creates

/-- The element that a visit makes was resolved exactly, and has the tag of its resolution. -/
theorem Visit.exact_of_made? (isMade : visit.made? scene = some (made, after)) :
    ∃ name entries near tag, visit.Flattens scene name entries ∧
      visit.sources? = some (near :: visit.place.anchor.toList) ∧
      made.resolution.Exact name entries (visit.world.forest.inScope near visit.place.anchor) ∧
      made.resolution.tag = (.ok (), tag) ∧
      after.forest.content? made.element = some (.element tag) := by
  unfold made? at isMade
  split at isMade
  case h_2 => cases isMade
  rename_i given attributes children read part
  split at isMade
  case h_2 => cases isMade
  rename_i run
  cases isMade
  obtain ⟨⟨near, resolution⟩, resolved, resolves, run⟩ := bind_eq_ok.mp run
  obtain ⟨element, created, creates, run⟩ := bind_eq_ok.mp run
  obtain ⟨_, placed, attaches, run⟩ := bind_eq_ok.mp run
  cases run
  -- The element keeps its tag when it gets its place.
  obtain ⟨tag, isTag, there⟩ := tag_of_createResolved creates
  have lasts := ((lasts_attach visit.place.target element created).of_ok attaches).2
  obtain ⟨context, _, describes, rest⟩ := bind_eq_ok.mp resolves
  cases describes
  obtain ⟨text, named, flattens, rest⟩ := bind_eq_ok.mp rest
  cases text with
  | none => cases rest
  | some name =>
      obtain ⟨near', found, nears, rest⟩ := bind_eq_ok.mp rest
      obtain ⟨resolution', final, settles, same⟩ := bind_eq_ok.mp rest
      cases same
      have sameForest := ((readsOnly_flatten _ _).forest_of_ok flattens).trans
        (Visit.forest_of_part? part)
      obtain ⟨rfl, isSources⟩ := visit.sources_of_nearest sameForest nears
      obtain ⟨entries, flat, flattens', exact⟩ := exact_of_resolve settles
      rw [sameForest] at exact
      exact ⟨name, entries, near, tag, ⟨given, attributes, children, read, _, flat, part, flattens,
        flattens'⟩, isSources, exact, isTag, lasts.element there⟩

end Making

/-- The element has the attributes of flattened ones, and none of them was lost. -/
def Forest.HasListed (forest : Forest) (element : NodeId) (entries : List (String × String))
    (scope : Option String → Option String) : Prop :=
  ∃ tag declared plain, forest.content? element = some (.element tag) ∧ tag.lost = [] ∧
    Listed entries scope declared plain tag.attributes

/-- What holds of an element when it was made, and lasts with the nodes of the forest, holds in the
end, however the build goes on. -/
theorem ensures_compile_of_made {R : World → Prop} {settings : Settings} {spec : Value}
    {where? : Option (Mode × Value)} {document arguments : Value} {before start : World} {task : Task}
    (prepared : prepare settings where? document arguments before = .ok task start) {visit : Visit}
    (among : visit ∈ task.visits spec start) {made : Made} {world : World}
    (isMade : visit.made? task.scene = some (made, world))
    (lasts : ∀ before after : World, R before → Lasts before.forest after.forest → R after)
    (holds : R world) :
    Ensures (compile settings spec where? document arguments) before (fun _ => R) fun _ => R := by
  have built := ensures_of_visit lasts (Visit.ensures_of_made? isMade lasts holds)
    task.scene.settings.budget _ among
  rw [(scene_of_prepare prepared).1] at built
  unfold compile compileWithin
  rw [MarkupSpec.ensures_bind, Ensures, prepared]
  show Ensures _ start _ _
  rw [MarkupSpec.ensures_bind]
  exact built.mono (fun _ _ holds => holds) fun _ _ holds => holds

/-- However a build goes on after it made an element whose attributes are apart, the element has
exactly what its map declares and its plain attributes. -/
theorem compile_attributes {settings : Settings} {spec : Value} {where? : Option (Mode × Value)}
    {document arguments : Value} {before start : World} {task : Task}
    (prepared : prepare settings where? document arguments before = .ok task start) {visit : Visit}
    (among : visit ∈ task.visits spec start) {made : Made} {world : World}
    (isMade : visit.made? task.scene = some (made, world)) (apart : made.resolution.KeepsApart) :
    ∃ name entries near, visit.Flattens task.scene name entries ∧
      visit.sources? = some (near :: visit.place.anchor.toList) ∧
      made.resolution.Exact name entries (visit.world.forest.inScope near visit.place.anchor) ∧
      Ensures (compile settings spec where? document arguments) before
        (fun _ after => after.forest.HasListed made.element entries
          (visit.world.forest.inScope near visit.place.anchor))
        fun _ after => after.forest.HasListed made.element entries
          (visit.world.forest.inScope near visit.place.anchor) := by
  obtain ⟨name, entries, near, tag, flattens, isSources, exact, isTag, there⟩ :=
    visit.exact_of_made? isMade
  refine ⟨name, entries, near, flattens, isSources, exact, ?_⟩
  rw [tag_of_apart exact apart] at isTag
  cases isTag
  have holds (after : World) (there : after.forest.content? made.element = some (.element
      ((Tag.ofName made.resolution.name made.resolution.elementNamespace).withEntries
        made.resolution.entries))) :
      after.forest.HasListed made.element entries
        (visit.world.forest.inScope near visit.place.anchor) :=
    ⟨_, _, _, there, rfl, listed_entries exact apart⟩
  -- The tag lasts from the visit to the end of the build.
  exact (ensures_compile_of_made prepared among isMade (fun _ _ there lasts => lasts.element there)
    there).mono (fun _ after there => holds after there) fun _ after there => holds after there

/-- The attributes of both elements of the sequence are apart, and listed in the end. -/
theorem compile_attributes_smallSpec :
    ((smallTask .before).visits smallSpec smallWorld).countP
        (fun visit => (visit.made? (smallTask .before).scene).any fun found =>
          found.1.resolution.KeepsApart) = 2 ∧
      ∀ visit ∈ (smallTask .before).visits smallSpec smallWorld, ∀ made world,
        visit.made? (smallTask .before).scene = some (made, world) → made.resolution.KeepsApart →
        ∃ name entries near, visit.Flattens (smallTask .before).scene name entries ∧
          visit.sources? = some (near :: visit.place.anchor.toList) ∧
          made.resolution.Exact name entries
            (visit.world.forest.inScope near visit.place.anchor) ∧
          Ensures (compile {} smallSpec (some (.before, .node 2)) .null (.list [])) smallWorld
            (fun _ after => after.forest.HasListed made.element entries
              (visit.world.forest.inScope near visit.place.anchor))
            fun _ after => after.forest.HasListed made.element entries
              (visit.world.forest.inScope near visit.place.anchor) := by
  have prepared : prepare {} (some (.before, .node 2)) .null (.list []) smallWorld =
      .ok (smallTask .before) smallWorld := rfl
  exact ⟨by decide +kernel, fun visit among made world isMade apart =>
    compile_attributes prepared among isMade apart⟩

end MarkupSpec
