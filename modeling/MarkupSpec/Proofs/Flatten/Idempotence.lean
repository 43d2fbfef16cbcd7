import MarkupSpec.Flatten
import MarkupSpec.Proofs.Run.Ensures

/-!
# Flattening twice

What a value comes to is nothing, or a text that is not empty and comes to itself.  The one
exception is a thing of no known shape with an empty text, and a function whose call leads to one
(`flattenWithin_idempotent`).

Scalars and all other kinds that stand for their text have one that is not empty, as long as they
are not absent (`Value.scalarText_ne_empty`).  The words that maps and sequences are joined from
are not empty either: an empty one is left out of a sequence, and in a map every word has its key
in front (`NoneEmpty`).
-/

namespace MarkupSpec

open Build Flatten

/-! ## Texts that are not empty -/

theorem toString_ne_empty (number : Int) : toString number ≠ "" := by
  have digits (n : Nat) : n.repr ≠ "" := by
    rw [Nat.repr_eq_ofList_toDigits, Ne, String.ofList_eq_empty_iff]
    exact Nat.toDigits_ne_nil
  rw [Int.toString_eq_repr, Int.repr_eq_if]
  split
  · exact digits _
  · simp

namespace Decimal

theorem positional_ne_nil (digits : List Char) (whole : Int) : positional digits whole ≠ [] := by
  unfold positional
  split <;> simp

theorem scientific_ne_nil (layout : Layout) (digits : List Char) (exponent : Int) :
    scientific layout digits exponent ≠ [] := by
  simp [scientific]

theorem layOut_ne_nil (layout : Layout) (number : Scaled) : number.layOut layout ≠ [] := by
  unfold Scaled.layOut
  split
  · simp
  · dsimp only
    split
    · exact positional_ne_nil _ _
    · exact scientific_ne_nil _ _ _

end Decimal

theorem Binary64.text_ne_empty (number : Binary64) : number.text ≠ "" := by
  cases number with
  | nan => decide
  | infinite => simp [Binary64.text, Decimal.plainLayout]
  | finite negative mantissa exponent =>
      have digits := Decimal.layOut_ne_nil Decimal.plainLayout (Decimal.shortest mantissa exponent)
      rw [Binary64.text, Ne, String.append_eq_empty_iff, String.ofList_eq_empty_iff]
      exact fun isEmpty => digits isEmpty.2

theorem Content.describe_ne_empty (content : Content) : content.describe ≠ "" := by
  have closes (front : String) : front ++ ">" ≠ "" := by
    rw [Ne, String.append_eq_empty_iff]
    exact fun isEmpty => absurd isEmpty.2 (by decide)
  have closesData (front : String) : front ++ "\x22>" ≠ "" := by
    rw [Ne, String.append_eq_empty_iff]
    exact fun isEmpty => absurd isEmpty.2 (by decide)
  cases content with
  | text | cdata | comment => exact closesData _
  | _ => exact closes _

/-- Every node has a description, also one that does not exist. -/
theorem Forest.describe_ne_empty (forest : Forest) (id : NodeId) : forest.describe id ≠ "" := by
  unfold Forest.describe
  split
  · exact Content.describe_ne_empty _
  · decide

namespace Value

variable {describe : NodeId → String}

theorem setText_ne_empty (isFrozen : Bool) (members : List String) :
    setText isFrozen members ≠ "" := by
  unfold setText
  split <;> simp

theorem tupleText_ne_empty (members : List String) : tupleText members ≠ "" := by
  unfold tupleText
  split <;> simp

theorem rangeText_ne_empty (start stop step : Int) : rangeText start stop step ≠ "" := by
  unfold rangeText
  dsimp only
  split <;> simp

/-- The quoted text of a value is never empty. -/
theorem quoted_ne_empty (described : ∀ id, describe id ≠ "") (value : Value) :
    value.quoted describe ≠ "" := by
  cases value with
  | bool truth => cases truth <;> simp [quoted]
  | int number => exact toString_ne_empty number
  | float number => exact number.text_ne_empty
  | nan => exact Binary64.nan.text_ne_empty
  | text content => simp [quoted, Text.quoted, Text.quoteWith]
  | bytes isMutable => cases isMutable <;> simp [quoted]
  | range => exact rangeText_ne_empty _ _ _
  | tuple => exact tupleText_ne_empty _
  | set => exact setText_ne_empty _ _
  | node id => exact described id
  | _ => simp [quoted]

/-- The text of a value that is not absent is empty only for a thing with an empty text. -/
theorem scalarText_ne_empty (described : ∀ id, describe id ≠ "") {value : Value}
    (present : value.isAbsent = false) (isNoThing : ∀ id, value ≠ .thing id "") :
    value.scalarText describe ≠ "" := by
  cases value with
  | bool truth => cases truth <;> simp [scalarText]
  | text content => simpa [isAbsent, scalarText, plain] using present
  | thing id content =>
      rintro rfl
      exact isNoThing id rfl
  | _ => exact quoted_ne_empty described _

end Value

/-! ## Words that are not empty -/

/-- None of the texts is empty. -/
def NoneEmpty (texts : List String) : Prop := "" ∉ texts

theorem NoneEmpty.nil : NoneEmpty [] := by simp [NoneEmpty]

theorem NoneEmpty.consWord {texts : List String} (noneEmpty : NoneEmpty texts)
    (text : Option String) : NoneEmpty (consWord text texts) := by
  unfold MarkupSpec.consWord
  split
  · split
    · exact noneEmpty
    next word isWord => exact List.not_mem_cons_of_ne_of_not_mem (Ne.symm isWord) noneEmpty
  · exact noneEmpty

/-- Texts that are not empty are joined to one that is not. -/
theorem NoneEmpty.joinWords {texts : List String} (noneEmpty : NoneEmpty texts) :
    joinWords texts ≠ some "" := by
  match texts with
  | [] => simp [MarkupSpec.joinWords]
  | [word] => simpa [MarkupSpec.joinWords, NoneEmpty, eq_comm] using noneEmpty
  | first :: second :: rest => simp [MarkupSpec.joinWords, String.intercalate_cons_cons]

namespace Flatten

variable {one : Value → Build (Option String)} {texts : List String} {after : World}

theorem noneEmpty_words {values : List Value} {world : World}
    (run : words one values world = .ok texts after) : NoneEmpty texts := by
  induction values generalizing world texts with
  | nil =>
      cases run
      exact .nil
  | cons value rest ih =>
      obtain ⟨text, middle, -, run⟩ := bind_eq_ok.mp run
      obtain ⟨others, _, onRest, run⟩ := bind_eq_ok.mp run
      cases run
      exact (ih onRest).consWord text

theorem noneEmpty_streamWords {id most : Nat} {world : World}
    (run : streamWords one id most world = .ok texts after) : NoneEmpty texts := by
  induction most generalizing world texts with
  | zero =>
      cases run
      exact .nil
  | succ most ih =>
      obtain ⟨item?, _, -, run⟩ := bind_eq_ok.mp run
      cases item? with
      | none =>
          cases run
          exact .nil
      | some value =>
          obtain ⟨text, middle, -, run⟩ := bind_eq_ok.mp run
          obtain ⟨others, _, onRest, run⟩ := bind_eq_ok.mp run
          cases run
          exact (ih onRest).consWord text

theorem noneEmpty_entryWords {entries : List (String × Value)} {world : World}
    (run : entryWords one entries world = .ok texts after) : NoneEmpty texts := by
  induction entries generalizing world texts with
  | nil =>
      cases run
      exact .nil
  | cons entry rest ih =>
      obtain ⟨text?, _, -, run⟩ := bind_eq_ok.mp run
      cases text? with
      | none => exact ih run
      | some text =>
          obtain ⟨others, _, onRest, run⟩ := bind_eq_ok.mp run
          cases run
          refine List.not_mem_cons_of_ne_of_not_mem (Ne.symm ?_) (ih onRest)
          simp

end Flatten

/-! ## Calls at the top of a value -/

/-- What a value leads to when it is called, as is what that call gives, and so on, any number of
times. -/
inductive LeadsTo (arguments : Build (List Value)) : Value → World → Value → World → Prop
  | here {value world} : LeadsTo arguments value world value world
  | call {function world given middle result returned last after} :
      arguments world = .ok given middle → function.call given middle = .ok result returned →
      LeadsTo arguments result returned last after →
      LeadsTo arguments (.function function) world last after

section Flattening

variable {arguments : Build (List Value)} {budget : Nat} {value : Value} {text : Option String}
  {world after : World}

/-- Flattening a function is calling it and flattening what it gives. -/
theorem flattenWithin_function (function : Function) :
    flattenWithin arguments (budget + 1) (.function function) =
      (do flattenWithin arguments budget (← function.call (← arguments))) := rfl

/-- Flattening a thing gives its text. -/
theorem flattenWithin_thing (id : Nat) (content : String) :
    flattenWithin arguments (budget + 1) (.thing id content) = pure (some content) := rfl

/-- A text that is not empty comes to itself. -/
theorem flattenWithin_text {content : String} (isText : content ≠ "") :
    flattenWithin arguments (budget + 1) (.text content) = pure (some content) := by
  have present : (content == "") = false := by simpa using isText
  funext world
  simp only [flattenWithin, absent, Value.isCountable, Value.isAbsent, present]
  rfl

/-- A value that is not called comes to an empty text only if it is a thing with one. -/
theorem flattenWithin_ne_empty (isNoFunction : ∀ function, value ≠ .function function)
    (isNoThing : ∀ id, value ≠ .thing id "")
    (run : flattenWithin arguments (budget + 1) value world = .ok text after) : text ≠ some "" := by
  obtain ⟨isAbsent, _, counts, run⟩ := bind_eq_ok.mp run
  have reads : isAbsent = value.isAbsent := by
    unfold absent at counts
    split at counts <;> cases counts
    rfl
  subst reads
  cases present : value.isAbsent with
  | true =>
      rw [present] at run
      cases run
      simp
  | false =>
      rw [present] at run
      cases value with
      | map =>
          obtain ⟨_, _, -, run⟩ := bind_eq_ok.mp run
          obtain ⟨texts, _, joins, run⟩ := bind_eq_ok.mp run
          cases run
          exact (noneEmpty_entryWords joins).joinWords
      | list | tuple | range =>
          obtain ⟨texts, _, joins, run⟩ := bind_eq_ok.mp run
          cases run
          exact (noneEmpty_words joins).joinWords
      | set =>
          obtain ⟨_, _, -, run⟩ := bind_eq_ok.mp run
          obtain ⟨texts, _, joins, run⟩ := bind_eq_ok.mp run
          cases run
          exact (noneEmpty_words joins).joinWords
      | stream =>
          obtain ⟨_, _, -, run⟩ := bind_eq_ok.mp run
          obtain ⟨texts, _, joins, run⟩ := bind_eq_ok.mp run
          cases run
          exact (noneEmpty_streamWords joins).joinWords
      | function function => exact absurd rfl (isNoFunction function)
      | _ =>
          cases run
          rw [Ne, Option.some_inj]
          exact Value.scalarText_ne_empty (Forest.describe_ne_empty _) present isNoThing

/-- A value comes to an empty text exactly if its calls lead to a thing with one. -/
theorem flattenWithin_eq_empty (run : flattenWithin arguments budget value world = .ok text after) :
    text = some "" ↔ ∃ id, LeadsTo arguments value world (.thing id "") after := by
  induction budget generalizing value world with
  | zero => cases run
  | succ budget ih =>
      cases value with
      | function function =>
          obtain ⟨given, middle, takes, run⟩ := bind_eq_ok.mp (flattenWithin_function function ▸ run)
          obtain ⟨result, returned, calls, run⟩ := bind_eq_ok.mp run
          rw [ih run]
          constructor
          · rintro ⟨id, leads⟩
            exact ⟨id, .call takes calls leads⟩
          · rintro ⟨id, leads⟩
            cases leads with
            | call takes' calls' leads =>
                obtain ⟨rfl, rfl⟩ := EStateM.Result.ok.inj (takes.symm.trans takes')
                obtain ⟨rfl, rfl⟩ := EStateM.Result.ok.inj (calls.symm.trans calls')
                exact ⟨id, leads⟩
      | thing id content =>
          rw [flattenWithin_thing] at run
          cases run
          constructor
          · rintro ⟨⟩
            exact ⟨id, .here⟩
          · rintro ⟨_, leads⟩
            cases leads
            rfl
      | _ =>
          constructor
          · intro isEmpty
            exact absurd isEmpty (flattenWithin_ne_empty (by simp) (by simp) run)
          · rintro ⟨_, leads⟩
            cases leads

/-- What a value comes to is an empty text exactly if its calls lead to a thing with one.
Otherwise it is nothing, or a text that is not empty and that comes to itself, whatever the
arguments, and without any change.  This is so however the arguments are come by and whatever the
budget, hence also of `flatten` and `flattenSpreading`. -/
theorem flattenWithin_idempotent
    (run : flattenWithin arguments budget value world = .ok text after) :
    (text = some "" ↔ ∃ id, LeadsTo arguments value world (.thing id "") after) ∧
    (text ≠ some "" → text = none ∨ ∃ content, text = some content ∧ content ≠ "" ∧
      ∀ arguments' budget',
        flattenWithin arguments' (budget' + 1) (.text content) = pure (some content)) := by
  refine ⟨flattenWithin_eq_empty run, fun isNotEmpty => ?_⟩
  cases text with
  | none => exact .inl rfl
  | some content =>
      have isText : content ≠ "" := fun isEmpty => isNotEmpty (congrArg some isEmpty)
      exact .inr ⟨content, rfl, isText, fun _ _ => flattenWithin_text isText⟩

end Flattening

/-- A function that gives a thing with an empty text. -/
def giveBlank : Value := .function { id := 0, label := none, body := .thing "" }

/-- The function by itself, as the value of a key, and in front of a list. -/
def blanks : Value := .list [giveBlank, .map [(.text "k", giveBlank)], .list [.text "", .text "a"]]

/-- The function alone comes to an empty text.  In a list that is left out, but not in a map. -/
theorem flattenWithin_idempotent_blanks :
    (∃ after id, flatten [] giveBlank {} = .ok (some "") after ∧
      LeadsTo (pure []) giveBlank {} (.thing id "") after) ∧
    ∃ after, flatten [] blanks {} = .ok (some "k:  a") after ∧
      ∀ arguments' budget',
        flattenWithin arguments' (budget' + 1) (.text "k:  a") = pure (some "k:  a") := by
  constructor
  · have run : flatten [] giveBlank {} = .ok (some "") { nextId := 1 } := rfl
    obtain ⟨id, leads⟩ := (flattenWithin_idempotent run).1.mp rfl
    exact ⟨_, id, run, leads⟩
  · have ends : endsIn (flatten [] blanks) {} (fun text _ => text = some "k:  a")
        fun _ _ => False := by decide +kernel
    cases run : flatten [] blanks {} with
    | error => exact (failed_of_endsIn ends run).elim
    | ok text after =>
        obtain rfl := done_of_endsIn ends run
        obtain isNone | ⟨content, same, -, again⟩ := (flattenWithin_idempotent run).2 (by decide)
        · cases isNone
        · cases same
          exact ⟨after, rfl, again⟩

end MarkupSpec
