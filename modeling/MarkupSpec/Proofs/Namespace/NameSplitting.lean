import MarkupSpec.Proofs.Namespace.ElementAttributes

/-!
# Two readings of a name

The name of an element is split twice: by the resolution, which looks for the namespace of what it
finds, and by the tag, which the scope of what is inside is read from.  The tag takes what comes
before the first colon and what comes after it, whatever that is.  The resolution wants text on both
sides and a single line behind the colon, and it drops a line feed at the end.

So the two agree for some names only (`ReadsAlike`, `splitQualified_eq_splitColon_iff`), and an
element that a build makes has the name that was asked for, with the parts that its namespace was
chosen by, exactly for these (`compile_names`).
-/

namespace MarkupSpec

open Build

/-- A name with text on both sides of its first colon that goes on as a single line, or a name
without a colon that is no line with a line feed behind it. -/
def ReadsAlike (name : String) : Prop :=
  match Text.splitAt? ':' name.toList with
  | some (before, after) => before ≠ [] ∧ after ≠ [] ∧ '\n' ∉ after
  | none => ∀ line, line ≠ [] → '\n' ∉ line → name.toList ≠ line ++ ['\n']

/-! ## Names -/

/-- A line that is read is all that there is, but perhaps for a line feed at the end. -/
theorem nonemptyLine?_eq_some_iff {chars line : List Char} :
    nonemptyLine? chars = some line ↔
      line ≠ [] ∧ '\n' ∉ line ∧ (chars = line ∨ chars = line ++ ['\n']) := by
  constructor
  · intro read
    have nonempty : line ≠ [] := by simpa using (Option.filter_eq_some_iff.mp read).2
    obtain ⟨isLine, noFeed⟩ := nonemptyLine?_eq_some read
    refine ⟨nonempty, noFeed, ?_⟩
    unfold dropLineFeed at isLine
    split at isLine
    · rename_i last
      obtain ⟨front, rfl⟩ := List.getLast?_eq_some_iff.mp last
      rw [List.dropLast_concat] at isLine
      exact .inr (by rw [isLine])
    · exact .inl isLine.symm
  · rintro ⟨nonempty, noFeed, rfl | rfl⟩
    · exact nonemptyLine?_of_not_mem noFeed nonempty
    · have drops : dropLineFeed (line ++ ['\n']) = line := by
        rw [dropLineFeed_append (List.cons_ne_nil _ _)]
        exact List.append_nil line
      simp [nonemptyLine?, singleLine?, drops, noFeed, nonempty]

/-- A name that is not split is kept, unless it is a line with a line feed behind it. -/
theorem wholeName_eq_iff {name : String} :
    wholeName name = name ↔ ∀ line, line ≠ [] → '\n' ∉ line → name.toList ≠ line ++ ['\n'] := by
  unfold wholeName
  cases read : nonemptyLine? name.toList with
  | none =>
      refine iff_of_true rfl fun line nonempty noFeed whole => ?_
      rw [nonemptyLine?_eq_some_iff.mpr ⟨nonempty, noFeed, .inr whole⟩] at read
      cases read
  | some line =>
      obtain ⟨nonempty, noFeed, whole⟩ := nonemptyLine?_eq_some_iff.mp read
      constructor
      · rintro same line' - - whole'
        rw [← same, String.toList_ofList] at whole'
        exact noFeed (by simp [whole'])
      · intro other
        rcases whole with whole | whole
        · rw [← whole]
          exact String.ofList_toList
        · exact absurd whole (other line nonempty noFeed)

/-- The two ways to split a name agree for the names that are read alike, and for no others. -/
theorem splitQualified_eq_splitColon_iff {name : String} :
    splitQualified name = Text.splitColon name ↔ ReadsAlike name := by
  unfold splitQualified Text.splitColon ReadsAlike
  cases cut : Text.splitAt? ':' name.toList with
  | none =>
      dsimp only
      rw [← wholeName_eq_iff, Prod.mk.injEq]
      exact and_iff_right rfl
  | some parts =>
      obtain ⟨before, after⟩ := parts
      dsimp only
      split
      · rename_i line isThere read
        obtain ⟨nonempty, noFeed, whole⟩ := nonemptyLine?_eq_some_iff.mp read
        have isSome : before ≠ [] := by simpa using isThere
        rw [Prod.mk.injEq, String.ofList_inj]
        constructor
        · rintro ⟨-, rfl⟩
          exact ⟨isSome, nonempty, noFeed⟩
        · rintro ⟨-, -, single⟩
          refine ⟨rfl, ?_⟩
          rcases whole with whole | whole
          · exact whole.symm
          · exact absurd (by simp [whole]) single
      · rename_i unsplit
        refine iff_of_false (by simp) ?_
        rintro ⟨isSome, nonempty, single⟩
        exact unsplit after (by simpa using isSome) (nonemptyLine?_of_not_mem single nonempty)

instance (name : String) : Decidable (ReadsAlike name) :=
  decidable_of_iff _ splitQualified_eq_splitColon_iff

example : ReadsAlike "svg:rect" ∧ ReadsAlike "a:b:c" ∧ ReadsAlike "p\nq" := by decide
example : ¬ ReadsAlike "r\n" ∧ ¬ ReadsAlike ":a" ∧ ¬ ReadsAlike "a:" ∧ ¬ ReadsAlike "a:b\nc" := by
  decide

/-! ## Elements -/

/-- The tag has a name, with these parts. -/
def Tag.IsNamed (tag : Tag) (name : String) (parts : Option String × String) : Prop :=
  tag.name = name ∧ (tag.qualifier, tag.localName) = parts

/-- The tag of a resolution has its name, and the parts that this has at its first colon. -/
theorem Resolution.isNamed {resolution : Resolution} {tag : Tag}
    (isTag : resolution.tag = (.ok (), tag)) :
    tag.IsNamed resolution.name (Text.splitColon resolution.name) := by
  have bare := resolution.bare_tag
  rw [isTag] at bare
  exact ⟨congrArg Tag.name bare,
    congrArg (fun tag => (Tag.qualifier tag, Tag.localName tag)) bare⟩

/-- A tag has the name that it was resolved for, with the parts that this was resolved with, exactly
if the name is read alike. -/
theorem Resolution.isNamed_iff {resolution : Resolution} {tag : Tag} {name : String}
    (split : (resolution.qualifier, resolution.localName) = splitQualified name)
    (isTag : resolution.tag = (.ok (), tag)) :
    tag.IsNamed name (resolution.qualifier, resolution.localName) ↔ ReadsAlike name := by
  obtain ⟨isName, areParts⟩ := resolution.isNamed isTag
  rw [← splitQualified_eq_splitColon_iff, ← split]
  constructor
  · rintro ⟨same, parts⟩
    rw [← parts, areParts, ← isName, same]
  · intro alike
    have joined : resolution.name = name := by
      have whole := Text.joinColon_splitColon name
      rwa [← alike] at whole
    exact ⟨isName.trans joined, by rw [areParts, joined, alike]⟩

/-- However a build goes on after it made an element, the element has the name of its resolution and
the parts of that.  It has the name that was asked for, and the parts that its namespace was chosen
by, exactly if that name is read alike. -/
theorem compile_names {settings : Settings} {spec : Value} {where? : Option (Mode × Value)}
    {document arguments : Value} {before start : World} {task : Task}
    (prepared : prepare settings where? document arguments before = .ok task start) {visit : Visit}
    (among : visit ∈ task.visits spec start) {made : Made} {world : World}
    (isMade : visit.made? task.scene = some (made, world)) :
    ∃ name entries tag, visit.Flattens task.scene name entries ∧
      (made.resolution.qualifier, made.resolution.localName) = splitQualified name ∧
      tag.IsNamed made.resolution.name (Text.splitColon made.resolution.name) ∧
      (tag.IsNamed name (made.resolution.qualifier, made.resolution.localName) ↔ ReadsAlike name) ∧
      Ensures (compile settings spec where? document arguments) before
        (fun _ after => after.forest.content? made.element = some (.element tag))
        fun _ after => after.forest.content? made.element = some (.element tag) := by
  obtain ⟨name, entries, near, tag, flattens, -, exact, isTag, there⟩ :=
    visit.exact_of_made? isMade
  refine ⟨name, entries, tag, flattens, exact.split, made.resolution.isNamed isTag,
    made.resolution.isNamed_iff exact.split isTag, ?_⟩
  -- The tag lasts from the visit to the end of the build.
  exact ensures_compile_of_made prepared among isMade (fun _ _ there lasts => lasts.element there)
    there

end MarkupSpec
