import PatternDispatch.Proofs.CacheInvariant
import PatternDispatch.Proofs.EvaluationOrder
import PatternDispatch.Proofs.RespelledRun
import PatternDispatch.Proofs.VisitedValues

/-!
Matching without class names and extractors. Such a pattern asks no function of the user, so a run
ends in a mismatch wherever a value does not fit, with one exception: there are numbers that cannot
be compared with some literals.
-/

namespace PatternDispatch

/-! ## Refused comparisons -/

/-- An integer that has no place in the cells of an array. -/
def Number.IsOversized (literal : Number) : Prop :=
  ∃ n, literal = .int n ∧ Value.int32Range n = false

namespace Value

variable {v : Value} {literal : Number} {e : ComparisonError}

/-- Whether a value is a signaling NaN among the decimals. -/
def IsSignaling (v : Value) : Prop :=
  ∃ negative payload, v.underlying = .decimal (.nan true negative payload)

theorem cellEquals_error_iff {cells : Cells} :
    cellEquals cells literal = .error e ↔ e = .overflow ∧ literal.IsOversized := by
  cases literal with
  | int n =>
    simp only [cellEquals, cellLiteral, Number.IsOversized, Number.int.injEq, exists_eq_left']
    cases fits : int32Range n with
    | false => simp [eq_comm]
    | true =>
      simp only [if_true, Bool.true_eq_false, and_false, iff_false]
      split <;> simp
  | truth b =>
    simp only [cellEquals, cellLiteral, Number.IsOversized, reduceCtorEq, false_and, exists_false,
      and_false, iff_false]
    split <;> simp
  | float x =>
    simp only [Number.IsOversized, reduceCtorEq, false_and, exists_false, and_false, iff_false]
    exact cellEquals_float_ne_error

/-- The comparisons that are refused: of a signaling NaN with any literal, and of a scalar array
with an integer that has no place in it. -/
theorem numberEquals_error_iff :
    v.numberEquals literal = .error e ↔
      (e = .invalidOperation ∧ v.IsSignaling) ∨
        (e = .overflow ∧ (∃ cells, v.scalarCells? = some cells) ∧ literal.IsOversized) := by
  unfold numberEquals IsSignaling scalarCells?
  cases base : v.underlying with
  | decimal d =>
    cases d with
    | nan signals negative payload => cases signals <;> simp [eq_comm]
    | _ => simp
  | array found =>
    dsimp only
    split
    · rw [cellEquals_error_iff]
      simp
    · simp
  | _ => simp

/-- The values found in a value: itself, the elements of its sequences and the values of its
mappings. -/
inductive Occurs (v : Value) : Value → Prop where
  | self : Occurs v v
  | element {w x : Value} {elements : List Value} : Occurs v w → w.elements? = some elements →
      x ∈ elements → Occurs v x
  | entry {w : Value} {entries : List (Value × Value)} {entry : Value × Value} : Occurs v w →
      w.entries? = some entries → entry ∈ entries → Occurs v entry.2

/-- A context that is not asked leaves a run at the values found in the argument. -/
theorem keeps_occurs (ctx : Context) (v : Value) : ctx.Keeps v.Occurs False where
  element occurs found _ member := occurs.element found member
  entry occurs found _ member := occurs.entry found member
  positional asks := asks.elim
  keyed asks := asks.elim
  extracted asks := asks.elim

end Value

/-! ## Structural patterns -/

namespace Pattern

/-- A tree without class names and extractors. -/
def IsStructural (tree : Pattern) : Prop := "class" ∉ tree.kinds ∧ "extractor" ∉ tree.kinds

mutual

theorem kinds_mapNumbers (f : Number → Number) (p : Pattern) :
    (p.mapNumbers f).kinds = p.kinds := by
  cases p with
  | binder name inner | rest inner | keyValue name inner | extractorOf name inner =>
    simp only [mapNumbers, kinds, kind, kinds_mapNumbers f inner]
  | array items | object items | tagArray name items | tagObject name items
  | argumentList items =>
    simp only [mapNumbers, kinds, kind, itemKinds_mapItemNumbers f items]
  | _ => simp only [mapNumbers, kinds, kind]

theorem itemKinds_mapItemNumbers (f : Number → Number) (items : List Pattern) :
    itemKinds (mapItemNumbers f items) = itemKinds items := by
  match items with
  | [] => rfl
  | item :: items =>
    simp only [mapItemNumbers, itemKinds, kinds_mapNumbers f item,
      itemKinds_mapItemNumbers f items]

end

section Structural

variable {tree other : Pattern}

/-- Trees that share a spelling are structural together. -/
theorem IsStructural.of_normalized (structural : tree.IsStructural)
    (same : other.normalized = tree.normalized) : other.IsStructural := by
  have kinds : other.kinds = tree.kinds := by
    rw [← kinds_mapNumbers Number.normalized other, ← kinds_mapNumbers Number.normalized tree]
    exact congrArg Pattern.kinds same
  unfold IsStructural
  rw [kinds]
  exact structural

/-- Trees that share a spelling have the same oversized integers, however they are written. -/
theorem exists_oversized (same : other.normalized = tree.normalized) {literal : Number}
    (member : literal ∈ other.numbers) (oversized : literal.IsOversized) :
    ∃ written ∈ tree.numbers, written.normalized.IsOversized := by
  obtain ⟨n, rfl, outside⟩ := oversized
  have numbers : other.numbers.map Number.normalized = tree.numbers.map Number.normalized := by
    rw [← numbers_mapNumbers, ← numbers_mapNumbers]
    exact congrArg Pattern.numbers same
  have spelled : Number.int n ∈ tree.numbers.map Number.normalized := by
    rw [← numbers]
    exact List.mem_map.mpr ⟨.int n, member, rfl⟩
  obtain ⟨written, inside, normal⟩ := List.mem_map.mp spelled
  exact ⟨written, inside, n, normal, outside⟩

theorem eq_literal {literal : Number}
    (same : other.normalized = (argumentList [number literal]).normalized) :
    ∃ alike, other = argumentList [number alike] := by
  have respelled : Respelled (argumentList [number literal]) other := same.symm
  cases respelled.sideBySide with
  | leaf isLeaf => cases isLeaf
  | argumentList items =>
    obtain ⟨item, others, rfl, one, none⟩ := items.cons
    obtain rfl := none.nil
    cases one.sideBySide with
    | leaf isLeaf => cases isLeaf
    | number => exact ⟨_, rfl⟩

end Structural

end Pattern

namespace Matching

variable {ctx : Context} {p : Pattern} {v : Value}

/-- The visits of a structural pattern only look at values that occur in the argument. -/
theorem visits_structural (structural : p.IsStructural) :
    AllWithin v.Occurs (· ∈ p.numbers) False (visits ctx p v) := by
  refine visits_within (Value.keeps_occurs ctx v) ⟨fun _ member => member, ?_, ?_⟩ .self
  · exact structural.1
  · exact structural.2

theorem Reaches.mem {visits : List Visit} {visit : Visit} (reached : Reaches ctx visits visit) :
    visit ∈ visits := by
  obtain ⟨before, after, rfl, -⟩ := reached
  exact List.mem_append_right before List.mem_cons_self

theorem comparison_error_iff {literal : Number} {failure : Failure} :
    ((Visit.comparison v literal).outcome ctx).result = .error failure ↔
      ∃ e, v.numberEquals literal = .error e ∧ failure = .comparison e := by
  rw [Visit.outcome, literalTest]
  cases v.numberEquals literal with
  | error e => simp [Traced.map_eq, Traced.fail, Except.map, eq_comm]
  | ok holds =>
    dsimp only
    rw [isSome_test]
    simp [pure]

/-- A structural pattern fails exactly where its run comes to a comparison that is refused. -/
theorem structural_error_iff (structural : p.IsStructural) {failure : Failure} :
    (run ctx p v).result = .error failure ↔
      ∃ w literal e, Reaches ctx (visits ctx p v) (.comparison w literal) ∧
        w.numberEquals literal = .error e ∧ failure = .comparison e := by
  rw [run_error_iff]
  constructor
  · rintro ⟨visit, reached, failed⟩
    have within := visits_structural structural visit reached.mem
    cases visit with
    | comparison w literal =>
      obtain ⟨e, refused, same⟩ := comparison_error_iff.mp failed
      exact ⟨w, literal, e, reached, refused, same⟩
    | test | sequence | mapping => cases failed
    | className | components | entries | extractor => exact within.1.elim
  · rintro ⟨w, literal, e, reached, refused, same⟩
    exact ⟨_, reached, comparison_error_iff.mpr ⟨e, refused, same⟩⟩

end Matching

namespace Environment

open Matching
open Pattern.Parser (parse)

variable {env : Environment} {text : Text} {tree : Pattern}

/-- A single match runs the tree that was compiled, which is some tree with the spelling of the
text. -/
theorem extract_result (used : env.cache.enabled = true → ∃ ctx, Reached ctx env)
    (read : parse text = .ok tree) (arguments : List Value) :
    ∃ compiled own, (compile text env).outcome.result = .ok compiled ∧
      Procedure.ofTree own = .ok compiled.procedure ∧ own.normalized = tree.normalized ∧
      (extract text arguments env).outcome.result =
        (run env.context own (.tuple arguments)).result := by
  obtain ⟨next, events, compiled, ran, other, own, readOther, same, compiles⟩ :=
    Cache.compile_isSpelled (cache_sound_of_used used) read
  have made : compile text env = ⟨{ env with cache := next }, events, .ok compiled⟩ := by
    unfold compile onCache Action.onPart
    rw [ran]
  refine ⟨compiled, own, by rw [made], compiles,
    Grammar.normalized_eq_of_canonical readOther read same, ?_⟩
  unfold extract
  rw [Action.bind_of_ok made, ← Procedure.run_ofTree readOther compiles]
  rfl

/-- Matching a pattern without class names and extractors. The tree that was compiled fails exactly
where its run comes to a comparison that is refused; then the arguments hold a signaling NaN, or a
scalar array while the pattern holds an integer that has no place in one. In every other case a
single match answers the captures or nothing. -/
theorem extract_structural (used : env.cache.enabled = true → ∃ ctx, Reached ctx env)
    (read : parse text = .ok tree) (structural : tree.IsStructural) (arguments : List Value) :
    (∃ compiled own, (compile text env).outcome.result = .ok compiled ∧
      Procedure.ofTree own = .ok compiled.procedure ∧ own.normalized = tree.normalized ∧
      ∀ failure, (extract text arguments env).outcome.result = .error failure ↔
        ∃ v literal e,
          Matching.Reaches env.context (visits env.context own (.tuple arguments))
            (.comparison v literal) ∧
          v.numberEquals literal = .error e ∧ failure = .comparison e) ∧
      (∀ (v : Value) literal e, v.numberEquals literal = .error e ↔
        (e = .invalidOperation ∧ v.IsSignaling) ∨
          (e = .overflow ∧ (∃ cells, v.scalarCells? = some cells) ∧ literal.IsOversized)) ∧
      ((∃ found, (extract text arguments env).outcome.result = .ok found) ∨
        ∃ v, (Value.tuple arguments).Occurs v ∧
          ((v.IsSignaling ∧
              (extract text arguments env).outcome.result =
                .error (.comparison .invalidOperation)) ∨
            ((∃ cells, v.scalarCells? = some cells) ∧
              (∃ literal ∈ tree.numbers, literal.normalized.IsOversized) ∧
              (extract text arguments env).outcome.result = .error (.comparison .overflow)))) := by
  obtain ⟨compiled, own, answered, compiles, normal, result⟩ := extract_result used read arguments
  have alike := structural.of_normalized normal
  have fails {failure : Failure} :
      (run env.context own (.tuple arguments)).result = .error failure ↔ _ :=
    structural_error_iff alike
  rw [result]
  refine ⟨⟨compiled, own, answered, compiles, normal, fun failure => fails⟩,
    fun v literal e => Value.numberEquals_error_iff, ?_⟩
  cases ended : (run env.context own (.tuple arguments)).result with
  | ok found => exact .inl ⟨found, rfl⟩
  | error failure =>
    obtain ⟨v, literal, e, reached, refused, rfl⟩ := fails.mp ended
    obtain ⟨occurs, member⟩ := visits_structural alike _ reached.mem
    refine .inr ⟨v, occurs, ?_⟩
    rcases Value.numberEquals_error_iff.mp refused with ⟨rfl, signaling⟩ | ⟨rfl, scalar, oversized⟩
    · exact .inl ⟨signaling, rfl⟩
    · exact .inr ⟨scalar, Pattern.exists_oversized normal member oversized, rfl⟩

/-- In a new environment a literal is not compared with a signaling NaN, and matches no text. -/
theorem extract_structural_signaling :
    let env := ofContext ⟨.empty, .empty, none⟩
    (extract (Text.ofString "5") [.decimal (.nan true false 0)] env).outcome.result =
        .error (.comparison .invalidOperation) ∧
      ∃ found, (extract (Text.ofString "5") [.str []] env).outcome.result = .ok found := by
  intro env
  have used : env.cache.enabled = true → ∃ ctx, Reached ctx env := fun _ => ⟨_, .start⟩
  have token : (Cursor.start (Text.ofString "5")).number =
      .ok (some (.int 5), ⟨Text.ofString "5", [], 1⟩) := by decide +kernel
  have read := Grammar.parse_number token rfl
  have structural : (Pattern.argumentList [.number (.int 5)]).IsStructural := by
    constructor <;> decide
  constructor
  · obtain ⟨⟨compiled, own, -, -, normal, fails⟩, -, -⟩ :=
      extract_structural used read structural [.decimal (.nan true false 0)]
    obtain ⟨literal, rfl⟩ := Pattern.eq_literal normal
    refine (fails _).mpr ⟨_, literal, _, ⟨[.sequence _ _], [], rfl, ?_⟩, rfl, rfl⟩
    intro earlier member
    obtain rfl := List.mem_singleton.mp member
    rfl
  · obtain ⟨⟨compiled, own, -, -, normal, fails⟩, -, -⟩ :=
      extract_structural used read structural [.str []]
    obtain ⟨literal, rfl⟩ := Pattern.eq_literal normal
    cases ended : (extract (Text.ofString "5") [.str []] env).outcome.result with
    | ok found => exact ⟨found, rfl⟩
    | error failure =>
      obtain ⟨v, other, e, reached, refused, -⟩ := (fails failure).mp ended
      have there := reached.mem
      simp only [visits, itemVisits, Value.elements?, Value.underlying, Option.getD_some,
        List.append_nil, List.mem_cons, reduceCtorEq, List.not_mem_nil, or_false, false_or,
        Visit.comparison.injEq] at there
      rw [there.1] at refused
      cases refused

end Environment

end PatternDispatch
