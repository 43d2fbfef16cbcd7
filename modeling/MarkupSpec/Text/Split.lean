/-!
# Splitting at a mark

`splitAt?` cuts a text at the first occurrence of a character.  The cut loses
only that character (`splitAt?_eq_some_iff`), and there is none exactly when
the character does not occur (`splitAt?_eq_none_iff`).

`splitColon` is the reading of a qualified name by the nodes of a forest: what
comes before the first colon and what comes after it, either of which may be
empty.
-/

namespace MarkupSpec.Text

/-- What comes before and after the first occurrence of a character. -/
def splitAt? (mark : Char) : List Char → Option (List Char × List Char)
  | [] => none
  | c :: rest =>
      if c = mark then some ([], rest)
      else (splitAt? mark rest).map fun (before, after) => (c :: before, after)
termination_by structural chars => chars

/-- A character that does not occur gives no cut. -/
theorem splitAt?_eq_none_iff {mark : Char} {chars : List Char} :
    splitAt? mark chars = none ↔ mark ∉ chars := by
  induction chars with
  | nil => simp [splitAt?]
  | cons c rest ih =>
      by_cases h : c = mark
      · simp [splitAt?, h]
      · simp [splitAt?, h, ih, Ne.symm h]

/-- A cut is at the first occurrence and loses nothing else. -/
theorem splitAt?_eq_some_iff {mark : Char} {chars before after : List Char} :
    splitAt? mark chars = some (before, after) ↔
      chars = before ++ mark :: after ∧ mark ∉ before := by
  induction chars generalizing before with
  | nil => simp [splitAt?]
  | cons c rest ih =>
      by_cases h : c = mark
      · cases before with
        | nil => simp [splitAt?, h]
        | cons b before =>
            simp only [splitAt?, h, ↓reduceIte, Option.some.injEq, Prod.mk.injEq, List.cons_append,
              List.cons.injEq, List.mem_cons, not_or]
            grind
      · cases before with
        | nil => simp [splitAt?, h]
        | cons b before =>
            simp only [splitAt?, h, ↓reduceIte, Option.map_eq_some_iff, Prod.mk.injEq,
              List.cons.injEq, Prod.exists, List.cons_append, List.mem_cons, not_or]
            grind

/-- The part before the first colon, if there is one, and the part after it. -/
def splitColon (name : String) : Option String × String :=
  match splitAt? ':' name.toList with
  | some (before, after) => (some (String.ofList before), String.ofList after)
  | none => (none, name)

/-- A name with a qualifier and a local part, as one text. -/
def joinColon (qualifier : Option String) (localName : String) : String :=
  match qualifier with
  | some text => text ++ ":" ++ localName
  | none => localName

/-- Splitting a name at its colon and joining the parts gives the name back. -/
theorem joinColon_splitColon (name : String) :
    joinColon (splitColon name).1 (splitColon name).2 = name := by
  unfold splitColon
  split
  · rename_i before after h
    obtain ⟨whole, -⟩ := splitAt?_eq_some_iff.mp h
    apply String.toList_inj.mp
    simp [joinColon, whole]
  · rfl

end MarkupSpec.Text
