import PatternDispatch.Proofs.CacheInvariant
import PatternDispatch.Proofs.RespelledRun

/-!
When sharing procedures is harmless. Texts of one canonical spelling share the procedure of the
first of them, whatever happened before. It does on arguments what the procedure of the text itself
does, unless a run compares a scalar array with a literal whose spellings the scalar tells apart.
-/

namespace PatternDispatch

open Matching (Steady)

/-! ## Texts that are one literal -/

/-- Every number with the spelling of an integral float is one that a literal can denote. -/
theorem Number.isLiteral_of_normalized {literal : Number} {n : Int} {x : Binary64}
    (whole : (float x).normalized = .int n) (same : literal.normalized = .int n) :
    literal.IsLiteral := by
  have float_isLiteral {y : Binary64} (whole : (float y).normalized = .int n) :
      (float y).IsLiteral := by
    obtain ⟨negative, rank, rfl, -⟩ := finite_of_normalized whole
    exact nofun
  rcases int_or_float_of_normalized same with rfl | ⟨y, rfl⟩
  · obtain ⟨-, numeral, -, written, read⟩ := exists_numeral (float_isLiteral whole)
    rw [whole] at read
    exact Numeral.read_isLiteral written.whole.1.2 read
  · exact float_isLiteral same

namespace Grammar

open Pattern.Parser (parse)

/-- Every number that a literal can denote is what some text is read as. -/
theorem exists_text {n : Number} (isLiteral : n.IsLiteral) :
    ∃ text, parse text = .ok (.argumentList [.number n]) := by
  obtain ⟨numeral, written, denotes⟩ := Number.exists_own_numeral isLiteral
  have whole : (Cursor.start (numeral.text true)).buffer = numeral.text true ++ [] :=
    (List.append_nil _).symm
  have read := Cursor.number_text written denotes whole rfl
  exact ⟨_, parse_number read (Cursor.Spans.buffer_advance whole)⟩

end Grammar

namespace Matching

variable {ctx : Context} {v : Value}

/-- A literal alone compares the one argument with it. -/
theorem run_literal (literal : Number) :
    run ctx (.argumentList [.number literal]) (.tuple [v]) =
      both (literalTest v literal) fun _ => captured [] := by
  rw [run]
  change runItems ctx [.number literal] (.tuple [v]) 0 [v] = _
  rw [runItems_item rfl, run, runItems]

theorem compared_literal (literal : Number) :
    compared ctx (.argumentList [.number literal]) (.tuple [v]) = [(v, literal)] := by
  rw [compared]
  change comparedItems ctx [.number literal] [v] = _
  rw [comparedItems_item rfl, compared, comparedItems, behind]
  split <;> rfl

/-- What a literal alone does shows what the comparison answers. -/
theorem numberEquals_of_run {a b : Number}
    (same : run ctx (.argumentList [.number a]) (.tuple [v]) =
      run ctx (.argumentList [.number b]) (.tuple [v])) :
    v.numberEquals a = v.numberEquals b := by
  rw [run_literal, run_literal] at same
  have results := congrArg Traced.result same
  unfold literalTest at results
  cases one : v.numberEquals a with
  | error e =>
    cases two : v.numberEquals b with
    | error d =>
      rw [one, two] at results
      cases results
      rfl
    | ok holds =>
      rw [one, two] at results
      cases holds <;> cases results
  | ok holds =>
    cases two : v.numberEquals b with
    | error d =>
      rw [one, two] at results
      cases holds <;> cases results
    | ok also =>
      rw [one, two] at results
      cases holds <;> cases also <;> first | rfl | cases results

end Matching

/-! ## What compiling answers -/

namespace Environment

open Pattern.Parser (parse)

variable {ctx : Context} {env : Environment} {text other : Text} {tree otherTree : Pattern}

/-- The procedure that compiling a text answers is the one of some text with its spelling. -/
theorem compile_isSpelled (reached : Reached ctx env) (read : parse text = .ok tree) :
    ∃ compiled, (compile text env).outcome.result = .ok compiled ∧
      compiled.procedure.IsSpelled tree.canonical := by
  obtain ⟨next, events, compiled, ran, answers⟩ := compile_spec reached read
  refine ⟨compiled, ?_, answers.sound.canonical _ _ answers.kept⟩
  rw [ran]

/-- In a new environment the text that is compiled first decides for all texts of its spelling. -/
theorem compile_first (ctx : Context) (read : parse text = .ok tree)
    (readOther : parse other = .ok otherTree) (same : otherTree.canonical = tree.canonical) :
    ∃ compiled, (compile text (compile other (ofContext ctx)).state).outcome.result = .ok compiled ∧
      Procedure.ofTree otherTree = .ok compiled.procedure := by
  have begun : Reached ctx (ofContext ctx) := .start
  obtain ⟨next, events, first, ran, answers⟩ := compile_spec begun readOther
  have reached := begun.step (.compile other)
  obtain ⟨last, later, compiled, ranLater, answersLater⟩ := compile_spec reached read
  have shared : compiled = first := by
    apply answersLater.found first
    rw [ran, ← same]
    exact answers.kept
  refine ⟨compiled, by rw [ranLater], ?_⟩
  rw [shared]
  exact answers.fresh rfl

/-- Whether the procedure that compiling a text answers, after any operations, does on arguments what
the text's own procedure does, in whatever context it is called. -/
def Transparent (ctx : Context) (text : Text) (current : Context) (arguments : List Value) : Prop :=
  ∀ env, Reached ctx env → ∃ compiled fresh, (compile text env).outcome.result = .ok compiled ∧
    Procedure.ofText text = .ok fresh ∧
    compiled.procedure.run current arguments = fresh.run current arguments

variable {current : Context} {arguments : List Value}

/-- Sharing is harmless exactly if all texts of the spelling do the same on the arguments. -/
theorem transparent_iff_spellings (read : parse text = .ok tree) :
    Transparent ctx text current arguments ↔
      ∀ other otherTree, parse other = .ok otherTree → otherTree.canonical = tree.canonical →
        Matching.run current otherTree (.tuple arguments) =
          Matching.run current tree (.tuple arguments) := by
  obtain ⟨own, ofText, compiles⟩ := Procedure.exists_ofText read
  constructor
  · intro transparent other otherTree readOther same
    obtain ⟨first, answered, compilesOther⟩ := compile_first ctx read readOther same
    obtain ⟨compiled, fresh, result, ownText, agree⟩ := transparent _ (.step .start (.compile other))
    obtain rfl : first = compiled := Except.ok.inj (answered.symm.trans result)
    obtain rfl : own = fresh := Except.ok.inj (ofText.symm.trans ownText)
    rw [← Procedure.run_ofTree readOther compilesOther, agree, Procedure.run_ofTree read compiles]
  · intro alike env reached
    obtain ⟨compiled, result, other, otherTree, readOther, same, compilesOther⟩ :=
      compile_isSpelled reached read
    refine ⟨compiled, own, result, ofText, ?_⟩
    rw [Procedure.run_ofTree readOther compilesOther, alike other otherTree readOther same,
      Procedure.run_ofTree read compiles]

/-- Sharing is harmless where no comparison tells two spellings of its literal apart. -/
theorem transparent_of_steady (read : parse text = .ok tree)
    (steady : Steady (Matching.compared current tree (.tuple arguments))) :
    Transparent ctx text current arguments := by
  rw [transparent_iff_spellings read]
  intro other otherTree readOther same
  have respelled : Pattern.Respelled tree otherTree :=
    Grammar.normalized_eq_of_canonical read readOther same.symm
  exact Matching.run_respelled _ respelled steady

/-- For a text that is one literal, sharing is harmless on all values but those that tell two
spellings of the literal apart. -/
theorem transparent_literal_iff {literal : Number} {v : Value}
    (read : parse text = .ok (.argumentList [.number literal])) :
    Transparent ctx text current [v] ↔ ¬v.IsSensitive literal := by
  constructor
  · intro transparent sensitive
    rw [transparent_iff_spellings read] at transparent
    have alike {other : Number} (same : other.normalized = literal.normalized) :
        v.numberEquals other = v.numberEquals literal := by
      obtain ⟨n, x, -, normal, whole, -⟩ := Value.isSensitive_iff.mp sensitive
      have isLiteral := Number.isLiteral_of_normalized whole (same.trans normal)
      obtain ⟨text, readOther⟩ := Grammar.exists_text isLiteral
      refine Matching.numberEquals_of_run (transparent text _ readOther ?_)
      simp only [Pattern.canonical, Pattern.joined]
      rw [← Number.normalized_spelling, same, Number.normalized_spelling]
    obtain ⟨a, b, sameA, sameB, differ⟩ := sensitive
    exact differ ((alike sameA).trans (alike sameB).symm)
  · intro steady
    apply transparent_of_steady read
    rw [Matching.compared_literal]
    intro c member
    obtain rfl := List.mem_singleton.mp member
    exact steady

/-- When the cache is transparent. Compiling a text that can be read always answers, and what the
procedure does on arguments depends on earlier operations only if some text of the same spelling
does otherwise; none does unless the text's own run comes to a value that tells two spellings of a
literal apart. For a text that is one literal this is exact, and such values are scalar arrays. -/
theorem compile_transparency {text : Text} {tree : Pattern} (read : parse text = .ok tree)
    (ctx current : Context) (arguments : List Value) :
    (∀ env, Reached ctx env → ∃ compiled, (compile text env).outcome.result = .ok compiled ∧
      compiled.procedure.IsSpelled tree.canonical) ∧
    (Transparent ctx text current arguments ↔
      ∀ other otherTree, parse other = .ok otherTree → otherTree.canonical = tree.canonical →
        Matching.run current otherTree (.tuple arguments) =
          Matching.run current tree (.tuple arguments)) ∧
    (Steady (Matching.compared current tree (.tuple arguments)) →
      Transparent ctx text current arguments) ∧
    (∀ literal v, tree = .argumentList [.number literal] → arguments = [v] →
      (Transparent ctx text current arguments ↔ ¬v.IsSensitive literal)) ∧
    ∀ (v : Value) (literal : Number), v.IsSensitive literal ↔
      ∃ n x cells, literal.normalized = .int n ∧ (Number.float x).normalized = .int n ∧
        v.scalarCells? = some cells ∧ (Value.int32Range n = false ∨
          ∃ k, cells = .int32 [k] ∧ k ≠ n ∧
            Binary.ofInt .binary32 k = Binary.ofInt .binary32 n) := by
  refine ⟨fun env reached => compile_isSpelled reached read, transparent_iff_spellings read,
    transparent_of_steady read, ?_, fun v literal => Value.isSensitive_iff⟩
  rintro literal v rfl rfl
  exact transparent_literal_iff read

/-- The scalar next to a literal that single precision cannot hold tells its spellings apart, and a
small scalar does not. -/
theorem compile_transparency_rounded :
    ∃ text tree, parse text = .ok tree ∧ tree.canonical = Text.ofString "16777217" ∧
      ¬Transparent ⟨.empty, .empty, none⟩ text ⟨.empty, .empty, none⟩
        [.array ⟨[], .int32 [16777216], rfl⟩] ∧
      Transparent ⟨.empty, .empty, none⟩ text ⟨.empty, .empty, none⟩
        [.array ⟨[], .int32 [5], rfl⟩] := by
  have token : (Cursor.start (Text.ofString "16777217")).number =
      .ok (some (.int 16777217), ⟨Text.ofString "16777217", [], 8⟩) := by decide +kernel
  have read := Grammar.parse_number token rfl
  have whole : (Number.float (Binary.ofInt .binary64 16777217)).normalized = .int 16777217 := by
    decide +kernel
  have rounds : Binary.ofInt .binary32 16777216 = Binary.ofInt .binary32 16777217 := by
    decide +kernel
  have apart : Binary.ofInt .binary32 5 ≠ Binary.ofInt .binary32 16777217 := by decide +kernel
  obtain ⟨-, -, -, exact_near, sensitive_iff⟩ :=
    compile_transparency read ⟨.empty, .empty, none⟩ ⟨.empty, .empty, none⟩
      [.array ⟨[], .int32 [16777216], rfl⟩]
  obtain ⟨-, -, -, exact_small, -⟩ :=
    compile_transparency read ⟨.empty, .empty, none⟩ ⟨.empty, .empty, none⟩
      [.array ⟨[], .int32 [5], rfl⟩]
  refine ⟨_, _, read, by decide +kernel, ?_, ?_⟩
  · rw [exact_near _ _ rfl rfl, not_not, sensitive_iff]
    exact ⟨16777217, _, _, rfl, whole, rfl, .inr ⟨16777216, rfl, by decide, rounds⟩⟩
  · rw [exact_small _ _ rfl rfl, sensitive_iff]
    rintro ⟨n, x, cells, normal, -, scalar, outside | ⟨k, same, -, equal⟩⟩
    · cases normal
      cases outside
    · cases normal
      cases scalar
      cases same
      exact apart equal

end Environment

end PatternDispatch
