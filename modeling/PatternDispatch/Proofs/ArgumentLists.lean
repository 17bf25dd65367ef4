import PatternDispatch.Proofs.CacheTransparency
import PatternDispatch.Proofs.EnclosedText
import PatternDispatch.Proofs.EvaluationOrder

/-!
Arguments given one by one and in one sequence. An argument list matches its arguments as an array
of the same items matches a list or a tuple of them, since a run asks for the sequence itself only
to take a span of it. A single match goes through the cache, which can hold another procedure for
either spelling; what that changes is what it changes for the argument list alone.
-/

namespace PatternDispatch

open Pattern.Parser (parse)

namespace Matching

variable {ctx : Context} {items : List Pattern} {values : List Value}

/-- Sequences of equal spans are matched alike from any position on. -/
theorem runItems_span {one other : Value}
    (spans : ∀ start stop, one.span start stop = other.span start stop) (items : List Pattern)
    (start : Nat) (elements : List Value) :
    runItems ctx items one start elements = runItems ctx items other start elements := by
  induction items generalizing start elements with
  | nil => rw [runItems, runItems]
  | cons item items ih =>
    cases isRest : item.isRest with
    | true =>
      obtain ⟨inner, rfl⟩ := Pattern.exists_rest isRest
      rw [runItems_rest, runItems_rest, spans, ih]
    | false =>
      cases elements with
      | nil => rw [runItems_short isRest, runItems_short isRest]
      | cons element elements => rw [runItems_item isRest, runItems_item isRest, ih]

theorem span_list (values : List Value) (start stop : Int) :
    (Value.list values).span start stop = (Value.tuple values).span start stop := rfl

theorem run_array_list (items : List Pattern) (values : List Value) :
    run ctx (.array items) (.list values) = run ctx (.argumentList items) (.tuple values) := by
  rw [run, run]
  have same : runItems ctx items (.list values) 0 = runItems ctx items (.tuple values) 0 :=
    funext fun elements => runItems_span (span_list values) items 0 elements
  rw [same]
  rfl

theorem run_array_tuple (items : List Pattern) (values : List Value) :
    run ctx (.array items) (.tuple values) = run ctx (.argumentList items) (.tuple values) := by
  rw [run, run]

/-- One pattern makes the comparisons that an argument list of it makes. -/
theorem compared_single {p : Pattern} (notRest : p.isRest = false) (v : Value) :
    compared ctx (.argumentList [p]) (.tuple [v]) = compared ctx p v := by
  have fits : lengthFits [p] 1 = true := by
    simp [lengthFits, hasRest, notRest]
  rw [compared]
  change (if lengthFits [p] 1 = true then comparedItems ctx [p] [v] else []) = _
  rw [if_pos fits, comparedItems_item notRest, comparedItems, behind]
  split <;> exact List.append_nil _

theorem compared_array_list (items : List Pattern) (values : List Value) :
    compared ctx (.array items) (.list values) =
      compared ctx (.argumentList items) (.tuple values) := by
  rw [compared, compared]
  rfl

theorem compared_array_tuple (items : List Pattern) (values : List Value) :
    compared ctx (.array items) (.tuple values) =
      compared ctx (.argumentList items) (.tuple values) := by
  rw [compared, compared]

end Matching

namespace Environment

open Matching Pattern

variable {ctx current : Context} {env : Environment} {text : Text} {tree : Pattern}
  {items : List Pattern} {arguments values : List Value}

/-! ## What a single match does -/

/-- A single match with the calls it makes, without what is reported of the compilation. -/
def matchOnce (text : Text) (arguments : List Value) (env : Environment) : Traced Match :=
  let outcome := (extract text arguments env).outcome
  ⟨outcome.events.filter Event.isCall, outcome.result⟩

theorem compile_quiet (text : Text) (cache : Cache) :
    (Cache.compile text cache).outcome.events.filter Event.isCall = [] := by
  cases enabled : cache.enabled with
  | true =>
    have compiling := Cache.compiling enabled text
    generalize Cache.compile text cache = ran at compiling
    cases compiling <;> rfl
  | false =>
    rw [Cache.compile_off enabled]
    split <;> rfl

/-- A single match calls what the run of the compiled procedure calls. -/
theorem matchOnce_of_compile {compiled : Compiled}
    (answered : (compile text env).outcome.result = .ok compiled) :
    matchOnce text arguments env = compiled.procedure.run env.context arguments := by
  have quiet := compile_quiet text env.cache
  unfold matchOnce extract
  cases ran : Cache.compile text env.cache with
  | mk next outcome =>
    obtain ⟨events, result⟩ := outcome
    rw [ran] at quiet
    have made : compile text env = ⟨{ env with cache := next }, events, result⟩ := by
      rw [compile, onCache, Action.onPart, ran]
    rw [made] at answered
    cases answered
    have calls : (compiled.procedure.run env.context arguments).events.filter Event.isCall =
        (compiled.procedure.run env.context arguments).events :=
      List.filter_eq_self.mpr (onlyCalls_run _ _)
    rw [Action.bind_of_ok made]
    change Traced.mk
      ((events ++ (compiled.procedure.run env.context arguments).events).filter _) _ = _
    rw [List.filter_append, quiet, calls]
    rfl

/-- A text that no earlier one shares its spelling with is compiled to its own tree. -/
theorem matchOnce_of_new (used : env.cache.enabled = true → ∃ ctx, Reached ctx env)
    (read : parse text = .ok tree)
    (new : env.cache.enabled = true → env.cache.byCanonical.find? tree.canonical = none) :
    matchOnce text arguments env = run env.context tree (.tuple arguments) := by
  cases enabled : env.cache.enabled with
  | true =>
    obtain ⟨ctx, reached⟩ := used enabled
    obtain ⟨next, events, compiled, ran, answers⟩ := compile_spec reached read
    have answered : (compile text env).outcome.result = .ok compiled := by rw [ran]
    rw [matchOnce_of_compile answered, Procedure.run_ofTree read (answers.fresh (new enabled))]
  | false =>
    obtain ⟨procedure, ofText, compiles⟩ := Procedure.exists_ofText read
    have answered : (compile text env).outcome.result = .ok ⟨env.cache.next, procedure⟩ := by
      rw [compile, onCache, Action.onPart, Cache.compile_off enabled, ofText]
    rw [matchOnce_of_compile answered, Procedure.run_ofTree read compiles]

/-- Where no comparison tells spellings apart, it does not matter which text was compiled. -/
theorem matchOnce_of_steady (used : env.cache.enabled = true → ∃ ctx, Reached ctx env)
    (read : parse text = .ok tree)
    (steady : Steady (compared env.context tree (.tuple arguments))) :
    matchOnce text arguments env = run env.context tree (.tuple arguments) := by
  obtain ⟨next, events, compiled, ran, other, otherTree, readOther, same, compiles⟩ :=
    Cache.compile_isSpelled (cache_sound_of_used used) read
  have answered : (compile text env).outcome.result = .ok compiled := by
    rw [compile, onCache, Action.onPart, ran]
  have respelled : Respelled tree otherTree :=
    Grammar.normalized_eq_of_canonical read readOther same.symm
  rw [matchOnce_of_compile answered, Procedure.run_ofTree readOther compiles]
  exact run_respelled _ respelled steady

/-! ## One sequence of the arguments -/

/-- A text matches arguments as the text in brackets matches a list and a tuple of them. -/
structure MatchesAsArray (text : Text) (values : List Value) (env : Environment) : Prop where
  list : matchOnce (bracketed '[' ']' text) [.list values] env = matchOnce text values env
  tuple : matchOnce (bracketed '[' ']' text) [.tuple values] env = matchOnce text values env

theorem matchesAsArray_of_steady (used : env.cache.enabled = true → ∃ ctx, Reached ctx env)
    (read : parse text = .ok (.argumentList items))
    (steady : Steady (compared env.context (.argumentList items) (.tuple values))) :
    MatchesAsArray text values env where
  list := by
    have inside : Steady (compared env.context (.argumentList [.array items])
        (.tuple [.list values])) := by rwa [compared_single rfl, compared_array_list]
    rw [matchOnce_of_steady used (Grammar.parse_array read) inside, run_single rfl, run_array_list,
      matchOnce_of_steady used read steady]
  tuple := by
    have inside : Steady (compared env.context (.argumentList [.array items])
        (.tuple [.tuple values])) := by rwa [compared_single rfl, compared_array_tuple]
    rw [matchOnce_of_steady used (Grammar.parse_array read) inside, run_single rfl, run_array_tuple,
      matchOnce_of_steady used read steady]

/-- Neither the spelling of some items nor that of an array of them is in the cache. -/
def IsNew (items : List Pattern) (env : Environment) : Prop :=
  env.cache.enabled = true →
    env.cache.byCanonical.find? (argumentList items).canonical = none ∧
      env.cache.byCanonical.find? (argumentList [array items]).canonical = none

theorem matchesAsArray_of_new (used : env.cache.enabled = true → ∃ ctx, Reached ctx env)
    (read : parse text = .ok (.argumentList items)) (isNew : IsNew items env) :
    MatchesAsArray text values env := by
  have own : matchOnce text values env = run env.context (.argumentList items) (.tuple values) :=
    matchOnce_of_new used read fun enabled => (isNew enabled).1
  constructor
  · rw [matchOnce_of_new used (Grammar.parse_array read) fun enabled => (isNew enabled).2,
      run_single rfl, run_array_list, own]
  · rw [matchOnce_of_new used (Grammar.parse_array read) fun enabled => (isNew enabled).2,
      run_single rfl, run_array_tuple, own]

theorem array_canonical_ne (items : List Pattern) :
    (argumentList [array items]).canonical ≠ (argumentList items).canonical := by
  simp only [canonical, joined]
  intro same
  have lengths := congrArg List.length same
  rw [bracketed, List.length_cons, List.length_append, List.length_singleton] at lengths
  omega

/-- The first text that is compiled is kept under no other spelling than its own. -/
theorem compile_start_other (ctx : Context) {other : Text} {otherTree : Pattern} {spelling : Text}
    (read : parse other = .ok otherTree) (different : spelling ≠ otherTree.canonical) :
    (compile other (ofContext ctx)).state.cache.byCanonical.find? spelling = none := by
  change (Cache.compile other (.empty true)).state.byCanonical.find? spelling = none
  have compiling : Cache.Compiling (.empty true) other (Cache.compile other (.empty true)) :=
    Cache.compiling rfl other
  generalize Cache.compile other (.empty true) = ran at compiling
  cases compiling with
  | hit known => cases known
  | unreadable _ unread => cases read.symm.trans unread
  | reuse _ _ known => cases known
  | fresh _ again =>
    obtain rfl := Except.ok.inj (again.symm.trans read)
    exact (Table.find?_insert _ _ _ _).trans (if_neg different)

/-- If arguments are matched as an array of them after all operations, then all texts that share the
spelling match them alike. -/
theorem transparent_of_asArray (ctx : Context) (read : parse text = .ok (.argumentList items))
    (asArray : ∀ ctx env, Reached ctx env → env.context = current →
      MatchesAsArray text values env) :
    Transparent ctx text current values := by
  rw [transparent_iff_spellings read]
  intro other otherTree readOther same
  have reached : Reached current (compile other (ofContext current)).state :=
    .step .start (.compile other)
  -- The other text decides for this one, but not for the array.
  obtain ⟨compiled, answered, compiles⟩ := compile_first current read readOther same
  have different : (argumentList [array items]).canonical ≠ otherTree.canonical := by
    rw [same]
    exact array_canonical_ne items
  have new := compile_start_other current readOther different
  have arrays := (asArray _ _ reached rfl).list
  rw [matchOnce_of_compile answered, Procedure.run_ofTree readOther compiles,
    matchOnce_of_new (fun _ => ⟨_, reached⟩) (Grammar.parse_array read) (fun _ => new),
    run_single rfl, run_array_list] at arrays
  exact arrays.symm

/-- Argument lists and array patterns. A text of items is an array of them in brackets and a class
pattern over them in parentheses behind a class name, and its procedure does on arguments what that
of the array does on one list or tuple of them. Single matches agree as well where the cache is
switched off, where it holds neither spelling, and wherever no comparison of the run tells two
spellings of its literal apart. They agree after all operations only if all texts that share the
spelling match the arguments alike; for a text of one literal that is exact. -/
theorem argument_list_matches_as_array {text : Text} {items : List Pattern}
    (read : parse text = .ok (.argumentList items)) :
    parse (bracketed '[' ']' text) = .ok (.argumentList [.array items]) ∧
      (∀ name, Token.IsName Character.isUpper name →
        parse (name ++ bracketed '(' ')' text) = .ok (.argumentList [.tagArray name items])) ∧
      (∃ own array, Procedure.ofText text = .ok own ∧
        Procedure.ofText (bracketed '[' ']' text) = .ok array ∧
        ∀ ctx values, array.run ctx [.list values] = own.run ctx values ∧
          array.run ctx [.tuple values] = own.run ctx values) ∧
      (∀ env values, (env.cache.enabled = true → ∃ ctx, Reached ctx env) →
        IsNew items env ∨ Steady (compared env.context (.argumentList items) (.tuple values)) →
        MatchesAsArray text values env) ∧
      (∀ current values,
        (∀ ctx env, Reached ctx env → env.context = current → MatchesAsArray text values env) →
        ∀ ctx, Transparent ctx text current values) ∧
      ∀ current literal v, items = [.number literal] →
        ((∀ ctx env, Reached ctx env → env.context = current → MatchesAsArray text [v] env) ↔
          ¬v.IsSensitive literal) := by
  have readArray := Grammar.parse_array read
  refine ⟨readArray, fun name isName => Grammar.parse_tagArray isName read, ?_, ?_, ?_, ?_⟩
  · obtain ⟨own, ofText, compiles⟩ := Procedure.exists_ofText read
    obtain ⟨array, ofArray, compilesArray⟩ := Procedure.exists_ofText readArray
    refine ⟨own, array, ofText, ofArray, fun ctx values => ?_⟩
    rw [Procedure.run_ofTree read compiles, Procedure.run_ofTree readArray compilesArray,
      Procedure.run_ofTree readArray compilesArray, run_single rfl, run_single rfl]
    exact ⟨run_array_list items values, run_array_tuple items values⟩
  · rintro env values used (isNew | steady)
    · exact matchesAsArray_of_new used read isNew
    · exact matchesAsArray_of_steady used read steady
  · exact fun current values asArray ctx => transparent_of_asArray ctx read asArray
  · rintro current literal v rfl
    constructor
    · intro asArray
      exact (transparent_literal_iff read).mp (transparent_of_asArray current read asArray)
    · rintro steady ctx env reached rfl
      refine matchesAsArray_of_steady (fun _ => ⟨ctx, reached⟩) read ?_
      rw [compared_literal]
      exact List.forall_mem_singleton.mpr steady

/-- The integer that single precision cannot hold, next to a scalar that rounds to it. A cache that
holds the literal as a float matches them one by one and not in a list; an integer it matches both
ways. -/
theorem argument_list_matches_as_array_rounded :
    ∃ text, parse text = .ok (.argumentList [.number (.int 16777217)]) ∧
      (¬∀ ctx env, Reached ctx env → env.context = ⟨.empty, .empty, none⟩ →
        MatchesAsArray text [.array ⟨[], .int32 [16777216], rfl⟩] env) ∧
      ∀ ctx env, Reached ctx env → env.context = ⟨.empty, .empty, none⟩ →
        MatchesAsArray text [.int 16777217] env := by
  have token : (Cursor.start (Text.ofString "16777217")).number =
      .ok (some (.int 16777217), ⟨Text.ofString "16777217", [], 8⟩) := by decide +kernel
  have read := Grammar.parse_number token rfl
  have whole : (Number.float (Binary.ofInt .binary64 16777217)).normalized = .int 16777217 := by
    decide +kernel
  have rounds : Binary.ofInt .binary32 16777216 = Binary.ofInt .binary32 16777217 := by
    decide +kernel
  have sensitive : (Value.array ⟨[], .int32 [16777216], rfl⟩).IsSensitive (.int 16777217) :=
    Value.isSensitive_iff.mpr ⟨16777217, _, _, rfl, whole, rfl,
      .inr ⟨16777216, rfl, by decide, rounds⟩⟩
  have steady : ¬(Value.int 16777217).IsSensitive (.int 16777217) := by
    intro sensitive
    obtain ⟨n, x, cells, -, -, scalar, -⟩ := Value.isSensitive_iff.mp sensitive
    cases scalar
  obtain ⟨-, -, -, -, -, exact⟩ := argument_list_matches_as_array read
  refine ⟨_, read, ?_, ?_⟩
  · rw [exact _ _ _ rfl, not_not]
    exact sensitive
  · exact (exact _ _ _ rfl).mpr steady

end Environment

end PatternDispatch
