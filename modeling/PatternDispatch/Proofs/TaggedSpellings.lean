import PatternDispatch.Proofs.EnclosedText
import PatternDispatch.Proofs.MissingHooks
import PatternDispatch.Proofs.ReadableProcedure

/-!
The class names of arrays and objects. A value that is no object of a declared class has no hook, no
named components and no sum type it belongs to, so under the name of its kind it is taken apart as
it is. A value of another kind has the name only if its type happens to be called so, and then it
has no components. The tagged spelling of a pattern therefore matches such values as the bare one
does.
-/

namespace PatternDispatch

open Pattern.Parser (parse)

def arrayTag : Text := Text.ofString "Array"

def objectTag : Text := Text.ofString "Object"

namespace Value

/-- A value that is no object of a declared class. A class is one only if its own type is declared,
and then it is not as the table refers to it. -/
structure IsBuiltIn (classes : ClassTable) (v : Value) : Prop where
  noObject : v.className? = none
  typed : ∀ name typeName, v = .classRef name typeName → v = classes.reference name

variable {classes : ClassTable} {v : Value}

/-- No test before that for sequences holds of one. -/
theorem kind_of_sequence (noObject : v.className? = none) (sequence : v.isSequence = true) :
    v.kind classes = .sequence := by
  cases v with
  | list | tuple => rfl
  | array cells =>
    cases scalar : cells.isScalar with
    | true => simp [isSequence, elements?, underlying, scalar] at sequence
    | false => simp [kind, isNumber, text?, isSequence, elements?, underlying, scalar]
  | record | namedTuple | derived | mapping => cases noObject
  | _ => cases sequence

theorem kind_of_mapping (noObject : v.className? = none) (keyed : v.isMapping = true) :
    v.kind classes = .mapping := by
  cases v with
  | map => rfl
  | record | namedTuple | derived | mapping => cases noObject
  | _ => cases keyed

end Value

namespace Context

variable {ctx : Context} {v : Value} {name : Text}

theorem class?_of_builtIn (noObject : v.className? = none) : v.class? ctx.classes = none := by
  rw [Value.class?, noObject]
  rfl

theorem isVariant_of_builtIn (noObject : v.className? = none) : ctx.isVariant v name = false := by
  have noInstance : ctx.isInstance v = fun _ => false := by
    funext className
    rw [isInstance, class?_of_builtIn noObject]
  unfold isVariant
  split
  · rfl
  · rw [noInstance, List.any_eq_false]
    exact fun _ _ => Bool.false_ne_true

/-- The name of its kind and the name of its type are all that a built-in value goes by. -/
theorem typeMatches_of_builtIn (noObject : v.className? = none) :
    ctx.typeMatches v name =
      (Kind.ofTag? name == some (v.kind ctx.classes) || v.typeName == name) := by
  rw [typeMatches, class?_of_builtIn noObject, isVariant_of_builtIn noObject, Bool.or_false]
  exact Bool.or_false _

/-- A sequence of a built-in type is its own components. -/
theorem positional_of_builtIn (noObject : v.className? = none) (notPass : ∀ w, v ≠ .pass w) :
    ctx.positional v name = pure (if v.isSequence then some v else none) := by
  have noClass : v.class? ctx.classes = none := class?_of_builtIn noObject
  have noHook : (v.class? ctx.classes).bind (·.positionalHook?) = none := by rw [noClass]; rfl
  have noArgs : positional.matchArgs? ctx v = none := by
    cases v with
    | pass w => exact absurd rfl (notPass w)
    | _ => simp [positional.matchArgs?, noClass]
  rw [positional_of_other noHook (isVariant_of_builtIn noObject), noArgs]

/-- A mapping of a built-in type is its own components. -/
theorem keyed_of_builtIn (noObject : v.className? = none) (notPass : ∀ w, v ≠ .pass w)
    (notClass : ∀ className typeName, v ≠ .classRef className typeName) :
    ctx.keyed v = pure (if v.isMapping then some v else none) := by
  have noClass : v.class? ctx.classes = none := class?_of_builtIn noObject
  have noHook : (v.class? ctx.classes).bind (·.keyedHook?) = none := by rw [noClass]; rfl
  have noFields : ctx.dataFields? v = none := by
    cases v with
    | pass w => exact absurd rfl (notPass w)
    | _ => simp [dataFields?, noClass]
  have noMethod : ctx.asFields v = pure none := by
    cases v with
    | pass w => exact absurd rfl (notPass w)
    | classRef className typeName => exact absurd rfl (notClass className typeName)
    | record | namedTuple | derived | mapping => cases noObject
    | _ => rfl
  rw [keyed_of_method noHook noFields, noMethod]
  rfl

end Context

namespace Matching

variable {ctx : Context} {v : Value}

/-- Asking a value for its components comes to the same as taking it as it is, if the value answers
itself and has the class name where it can be taken apart, and otherwise answers nothing. -/
theorem overComponents_self {holds : Bool} {components : Traced (Option Value)}
    {next : Value → Traced Match} (bare : Bool) (named : bare = true → holds = true)
    (answers : holds = true → components = pure (if bare then some v else none))
    (refused : bare = false → next v = mismatch) :
    overComponents holds components next = next v := by
  unfold overComponents
  cases bare with
  | true =>
    rw [if_pos (named rfl), answers (named rfl)]
    rfl
  | false =>
    rw [refused rfl]
    split
    · next has =>
      rw [answers has]
      rfl
    · rfl

/-- Under its name an array pattern matches a built-in value as it does without it. -/
theorem run_tagArray_of_builtIn (builtIn : v.IsBuiltIn ctx.classes) (items : List Pattern) :
    run ctx (.tagArray arrayTag items) v = run ctx (.array items) v := by
  rw [run, run]
  refine overComponents_self v.isSequence (fun isSequence => ?_) (fun has => ?_)
    fun noSequence => ?_
  · rw [Context.typeMatches_of_builtIn builtIn.noObject,
      Value.kind_of_sequence builtIn.noObject isSequence]
    rfl
  · refine Context.positional_of_builtIn builtIn.noObject ?_
    rintro w rfl
    rw [Context.typeMatches_of_builtIn rfl] at has
    cases has
  · have none : v.elements? = none := by
      rwa [Value.isSequence, Option.isSome_eq_false_iff, Option.isNone_iff_eq_none] at noSequence
    rw [overElements, none]

/-- Under its name an object pattern matches a built-in value as it does without it. -/
theorem run_tagObject_of_builtIn (builtIn : v.IsBuiltIn ctx.classes) (items : List Pattern) :
    run ctx (.tagObject objectTag items) v = run ctx (.object items) v := by
  rw [run, run]
  refine overComponents_self v.isMapping (fun isMapping => ?_) (fun has => ?_)
    fun noMapping => ?_
  · rw [Context.typeMatches_of_builtIn builtIn.noObject,
      Value.kind_of_mapping builtIn.noObject isMapping]
    rfl
  · rw [Context.typeMatches_of_builtIn builtIn.noObject] at has
    refine Context.keyed_of_builtIn builtIn.noObject ?_ ?_
    · rintro w rfl
      cases has
    · rintro className typeName rfl
      rw [builtIn.typed className typeName rfl, ClassTable.reference] at has
      split at has <;> cases has
  · have none : v.entries? = none := by
      rwa [Value.isMapping, Option.isSome_eq_false_iff, Option.isNone_iff_eq_none] at noMapping
    rw [overEntries, none]

end Matching

/-- Two texts of one pattern each that one value is matched by alike. -/
theorem Procedure.exists_alike {ctx : Context} {v : Value} {text other : Text} {p q : Pattern}
    (read : parse text = .ok (.argumentList [p]))
    (readOther : parse other = .ok (.argumentList [q]))
    (notRest : p.isRest = false) (notRestOther : q.isRest = false)
    (same : Matching.run ctx q v = Matching.run ctx p v) :
    ∃ one two, ofText text = .ok one ∧ ofText other = .ok two ∧
      two.run ctx [v] = one.run ctx [v] := by
  obtain ⟨one, ofText, compiles⟩ := exists_ofText read
  obtain ⟨two, ofOther, compilesOther⟩ := exists_ofText readOther
  refine ⟨one, two, ofText, ofOther, ?_⟩
  rw [run_ofTree read compiles, run_ofTree readOther compilesOther, Matching.run_single notRest,
    Matching.run_single notRestOther, same]

namespace Pattern

/-- On a value that is no object of a declared class, the name of arrays in front of items in
parentheses comes to the same as brackets around the items, and the name of objects in front of an
object to the same as the object: the outcome, the captures and the calls of hooks are the same. -/
theorem kind_tags_match_as_brackets (ctx : Context) {v : Value}
    (builtIn : v.IsBuiltIn ctx.classes) :
    (∀ items, Matching.run ctx (.tagArray arrayTag items) v = Matching.run ctx (.array items) v) ∧
      (∀ items,
        Matching.run ctx (.tagObject objectTag items) v = Matching.run ctx (.object items) v) ∧
      (∀ text items, parse text = .ok (.argumentList items) →
        ∃ bare tagged, Procedure.ofText (bracketed '[' ']' text) = .ok bare ∧
          Procedure.ofText (arrayTag ++ bracketed '(' ')' text) = .ok tagged ∧
          tagged.run ctx [v] = bare.run ctx [v]) ∧
      ∀ text items, parse (bracketed '\x7b' '\x7d' text) = .ok (.argumentList [.object items]) →
        ∃ bare tagged, Procedure.ofText (bracketed '\x7b' '\x7d' text) = .ok bare ∧
          Procedure.ofText (objectTag ++ bracketed '\x7b' '\x7d' text) = .ok tagged ∧
          tagged.run ctx [v] = bare.run ctx [v] := by
  refine ⟨Matching.run_tagArray_of_builtIn builtIn, Matching.run_tagObject_of_builtIn builtIn,
    fun text items read => ?_, fun text items read => ?_⟩
  · have isName : Token.IsName Character.isUpper arrayTag := ⟨_, _, rfl, rfl, by decide⟩
    exact Procedure.exists_alike (Grammar.parse_array read) (Grammar.parse_tagArray isName read)
      rfl rfl (Matching.run_tagArray_of_builtIn builtIn items)
  · have isName : Token.IsName Character.isUpper objectTag := ⟨_, _, rfl, rfl, by decide⟩
    exact Procedure.exists_alike read (Grammar.parse_tagObject isName rfl read) rfl rfl
      (Matching.run_tagObject_of_builtIn builtIn items)

/-- A list is an array under both spellings, and its element is captured. -/
theorem kind_tags_match_as_brackets_list :
    ∃ bare tagged, Procedure.ofText (Text.ofString "[x, ]") = .ok bare ∧
      Procedure.ofText (Text.ofString "Array(x, )") = .ok tagged ∧
      (bare.run ⟨.empty, .empty, none⟩ [.list [.int 1]]).result = .ok (some [.int 1]) ∧
      tagged.run ⟨.empty, .empty, none⟩ [.list [.int 1]] =
        bare.run ⟨.empty, .empty, none⟩ [.list [.int 1]] := by
  have builtIn : (Value.list [.int 1]).IsBuiltIn .empty := ⟨rfl, nofun⟩
  have read : parse (Text.ofString "x, ") =
      .ok (.argumentList [.identifier (Text.ofString "x")]) := rfl
  obtain ⟨-, -, texts, -⟩ := kind_tags_match_as_brackets ⟨.empty, .empty, none⟩ builtIn
  obtain ⟨bare, tagged, ofBare, ofTagged, same⟩ := texts _ _ read
  refine ⟨bare, tagged, ofBare, ofTagged, ?_, same⟩
  cases ofBare
  rfl

end Pattern

end PatternDispatch
