import PatternDispatch.Proofs.CacheHistory

/-!
Which patterns share a canonical spelling. Below `10 ^ 21` an integer and a float of the same value
are spelled alike; from there on a float has an exponent and an integer has none. So two texts have
one spelling if their trees agree but for the way in which equal numbers are given, and if numbers
that large are of one kind as well.
-/

namespace PatternDispatch

open Pattern.Parser (parse canonicalize)

/-! ## Numbers -/

namespace Number

variable {a b : Number} {n : Int} {x y : Binary64}

def isInt : Number → Bool
  | int _ => true
  | _ => false

/-- A finite number below `10 ^ 21` in magnitude. -/
def IsBelow (n : Number) : Prop := ∃ q : ℚ, n.exact = .rational q ∧ |q| < 10 ^ 21

/-- Two numbers of one value, and of one kind where the kind is seen in the spelling. -/
def Interchangeable (a b : Number) : Prop := a.exact = b.exact ∧ (a.IsBelow ∨ a.isInt = b.isInt)

/-- A float of an integral value is spelled as that integer below `10 ^ 21`. -/
theorem normalized_of_integral (value : (float x).exact = .rational n) (below : |n| < 10 ^ 21) :
    (float x).normalized = .int n := by
  cases x with
  | nan | infinity => cases value
  | finite negative rank =>
    have size : Binary.magnitude .binary64 rank = (|n| : Int) := by
      have nonneg := Binary.magnitude_nonneg .binary64 rank
      have same : |(n : ℚ)| = Binary.magnitude .binary64 rank := by
        cases negative with
        | false =>
          rw [← Exact.rational.inj value]
          exact abs_of_nonneg nonneg
        | true =>
          rw [← Exact.rational.inj value, abs_neg]
          exact abs_of_nonneg nonneg
      rw [← same, Int.cast_abs]
    have integral : (Binary.magnitude .binary64 rank).den = 1 ∧
        Binary.magnitude .binary64 rank < 10 ^ 21 := by
      rw [size]
      exact ⟨rfl, by exact_mod_cast below⟩
    have exact := normalized_exact (float (.finite negative rank))
    simp only [normalized, if_pos integral] at exact ⊢
    rw [value] at exact
    exact congrArg int (Int.cast_injective (Exact.rational.inj exact))

/-- Floats of one value are the same but for the sign of zero. -/
theorem eq_or_zero_of_exact (same : (float x).exact = (float y).exact) :
    x = y ∨ (float x).exact = .rational 0 := by
  have unique (negative : Bool) {one two : Fin (Format.magnitudes .binary64)}
      (sizes : Binary.magnitude .binary64 one = Binary.magnitude .binary64 two) :
      Binary.finite negative one = Binary.finite negative two := by
    rw [← Binary.round_magnitude _ negative one, sizes, Binary.round_magnitude]
  cases x with
  | nan => cases y with
    | nan => exact .inl rfl
    | infinity => cases same
    | finite negative rank => cases negative <;> cases same
  | infinity negative => cases y with
    | nan => cases same
    | infinity other =>
      cases same
      exact .inl rfl
    | finite other rank => cases other <;> cases same
  | finite negative one =>
    cases y with
    | nan | infinity => cases negative <;> cases same
    | finite other two =>
      have oneNonneg := Binary.magnitude_nonneg .binary64 one
      have twoNonneg := Binary.magnitude_nonneg .binary64 two
      cases negative <;> cases other <;> have sizes := Exact.rational.inj same
      · exact .inl (unique false sizes)
      · have zero : Binary.magnitude .binary64 one = 0 := by linarith
        exact .inr (congrArg Exact.rational zero)
      · have zero : -Binary.magnitude .binary64 one = 0 := by linarith
        exact .inr (congrArg Exact.rational zero)
      · exact .inl (unique true (neg_injective sizes))

/-- An integer and a float of its value are spelled alike below `10 ^ 21` only. -/
theorem normalized_eq_int_iff (value : (float x).exact = (int n).exact) :
    (float x).normalized = .int n ↔ (int n).IsBelow := by
  constructor
  · intro whole
    obtain ⟨negative, rank, rfl, -, below, rfl⟩ := finite_of_normalized whole
    have nonneg := Binary.magnitude_nonneg .binary64 rank
    cases negative with
    | false => exact ⟨_, value.symm, by rwa [abs_of_nonneg nonneg]⟩
    | true => exact ⟨_, value.symm, by rwa [abs_neg, abs_of_nonneg nonneg]⟩
  · rintro ⟨q, exact, below⟩
    cases exact
    exact normalized_of_integral value (by exact_mod_cast below)

/-- Literals have one spelling just where one can stand for the other. -/
theorem normalized_eq_iff (literal : a.IsLiteral) (other : b.IsLiteral) :
    a.normalized = b.normalized ↔ a.Interchangeable b := by
  by_cases exact : a.exact = b.exact
  · rw [Interchangeable, and_iff_right exact]
    cases a with
    | truth => exact literal.elim
    | int n =>
      cases b with
      | truth => exact other.elim
      | int m =>
        have same : n = m := Int.cast_injective (Exact.rational.inj exact)
        exact iff_of_true (congrArg int same) (.inr rfl)
      | float y =>
        have spelled := normalized_eq_int_iff exact.symm
        rw [eq_comm] at spelled
        exact spelled.trans (or_iff_left nofun).symm
    | float x =>
      cases b with
      | truth => exact other.elim
      | int m =>
        have below : (float x).IsBelow ↔ (int m).IsBelow := by rw [IsBelow, exact, IsBelow]
        exact (normalized_eq_int_iff exact).trans (below.symm.trans (or_iff_left nofun).symm)
      | float y =>
        refine iff_of_true ?_ (.inr rfl)
        obtain rfl | zero := eq_or_zero_of_exact exact
        · rfl
        · have none : (float x).exact = .rational (0 : Int) := zero
          rw [normalized_of_integral none (by norm_num),
            normalized_of_integral (exact ▸ none) (by norm_num)]
  · exact iff_of_false (fun same => exact (exact_of_normalized same)) fun both => exact both.1

end Number

/-! ## Trees -/

namespace Pattern

mutual

/-- The tree with its numbers taken from a list in preorder, and the numbers that are left. -/
def refill : Pattern → List Number → Pattern × List Number
  | number value, [] => (number value, [])
  | number _, n :: ns => (number n, ns)
  | binder name inner, ns => (refill inner ns).map (binder name) id
  | array items, ns => (refillItems items ns).map array id
  | rest inner, ns => (refill inner ns).map rest id
  | keyValue name inner, ns => (refill inner ns).map (keyValue name) id
  | object items, ns => (refillItems items ns).map object id
  | tagArray name items, ns => (refillItems items ns).map (tagArray name) id
  | tagObject name items, ns => (refillItems items ns).map (tagObject name) id
  | extractorOf name inner, ns => (refill inner ns).map (extractorOf name) id
  | argumentList items, ns => (refillItems items ns).map argumentList id
  | p, ns => (p, ns)

def refillItems : List Pattern → List Number → List Pattern × List Number
  | [], ns => ([], ns)
  | item :: items, ns =>
    let first := refill item ns
    (refillItems items first.2).map (first.1 :: ·) id

end

mutual

/-- A tree is made of its shape and its numbers. -/
theorem refill_shape (f : Number → Number) (p : Pattern) (more : List Number) :
    refill p.shape (p.numbers.map f ++ more) = (p.mapNumbers f, more) := by
  cases p with
  | number value => simp [shape, mapNumbers, numbers, refill]
  | binder name inner | rest inner | keyValue name inner | extractorOf name inner =>
    have inside := refill_shape f inner more
    rw [shape] at inside
    simp [shape, mapNumbers, numbers, refill, inside]
  | array items | object items | argumentList items | tagArray name items | tagObject name items =>
    simp [shape, mapNumbers, numbers, refill, refillItems_shape f items more]
  | _ => simp [shape, mapNumbers, numbers, refill]

theorem refillItems_shape (f : Number → Number) (items : List Pattern) (more : List Number) :
    refillItems (mapItemNumbers (fun _ => .int 0) items) ((itemNumbers items).map f ++ more) =
      (mapItemNumbers f items, more) := by
  match items with
  | [] => rfl
  | item :: items =>
    have first := refill_shape f item ((itemNumbers items).map f ++ more)
    rw [shape] at first
    simp [mapItemNumbers, itemNumbers, refillItems, first, refillItems_shape f items more]

end

theorem mapNumbers_eq_iff {f : Number → Number} {p q : Pattern} :
    p.mapNumbers f = q.mapNumbers f ↔
      p.shape = q.shape ∧ p.numbers.map f = q.numbers.map f := by
  have blank (p : Pattern) : (p.mapNumbers f).shape = p.shape := mapNumbers_mapNumbers _ _ p
  constructor
  · intro same
    rw [← blank p, ← numbers_mapNumbers, same, blank, numbers_mapNumbers]
    exact ⟨rfl, rfl⟩
  · rintro ⟨shapes, numbers⟩
    have rebuilt := refill_shape f p []
    rw [shapes, numbers, refill_shape] at rebuilt
    exact (Prod.mk.inj rebuilt).1.symm

/-- Trees that agree node by node, where the numbers in one place are related. -/
def AgreesUpTo (related : Number → Number → Prop) (p q : Pattern) : Prop :=
  p.shape = q.shape ∧ List.Forall₂ related p.numbers q.numbers

theorem itemNumbers_eq (items : List Pattern) : itemNumbers items = items.flatMap numbers := by
  induction items with
  | nil => rfl
  | cons item items ih => rw [itemNumbers, ih, List.flatMap_cons]

/-- The numbers of a tree that is read are those that a literal can denote. -/
theorem Readable.literals {role : Role} {p : Pattern} (readable : Readable role p) :
    ∀ n ∈ p.numbers, n.IsLiteral := by
  induction readable with
  | number isLiteral => exact List.forall_mem_singleton.mpr isLiteral
  | binder _ _ _ ih | extractorOf _ _ ih | rest _ _ ih | keyValue _ _ ih => exact ih
  | element _ ih => exact ih
  | array _ _ ih | object _ _ ih | tagArray _ _ _ ih | tagObject _ _ _ ih =>
    rw [numbers, itemNumbers_eq]
    intro n member
    obtain ⟨item, inside, own⟩ := List.mem_flatMap.mp member
    exact ih item inside n own
  | _ => exact fun _ member => nomatch member

theorem numbers_isLiteral {text : Text} {tree : Pattern} (read : parse text = .ok tree) :
    ∀ n ∈ tree.numbers, n.IsLiteral := by
  obtain ⟨items, rfl, readable⟩ := Grammar.readable_of_parse read
  rw [numbers, itemNumbers_eq]
  intro n member
  obtain ⟨item, inside, own⟩ := List.mem_flatMap.mp member
  exact (readable.each item inside).literals n own

end Pattern

/-- Literals have the same spellings one by one where each can stand for the other. -/
theorem Number.map_normalized_eq_iff {ns ms : List Number} (literals : ∀ n ∈ ns, n.IsLiteral)
    (others : ∀ m ∈ ms, m.IsLiteral) :
    ns.map normalized = ms.map normalized ↔ List.Forall₂ Interchangeable ns ms := by
  induction ns generalizing ms with
  | nil => simp [eq_comm]
  | cons n ns ih =>
    cases ms with
    | nil => simp
    | cons m ms =>
      obtain ⟨own, rest⟩ := List.forall_mem_cons.mp literals
      obtain ⟨other, more⟩ := List.forall_mem_cons.mp others
      rw [List.map_cons, List.map_cons, List.cons.injEq, normalized_eq_iff own other,
        ih rest more, List.forall₂_cons]

namespace Pattern.Parser

variable {text other : Text} {tree otherTree : Pattern}

/-- Trees of texts have one spelling just where they agree up to interchangeable numbers. -/
theorem canonical_eq_iff (read : parse text = .ok tree) (readOther : parse other = .ok otherTree) :
    tree.canonical = otherTree.canonical ↔ tree.AgreesUpTo Number.Interchangeable otherTree := by
  have normal : tree.canonical = otherTree.canonical ↔ tree.normalized = otherTree.normalized := by
    constructor
    · exact Grammar.normalized_eq_of_canonical read readOther
    · intro same
      rw [← normalized_canonical tree, ← normalized_canonical otherTree]
      exact congrArg canonical same
  rw [normal, normalized, normalized, mapNumbers_eq_iff, AgreesUpTo,
    Number.map_normalized_eq_iff (numbers_isLiteral read) (numbers_isLiteral readOther)]

theorem canonicalize_eq_iff (read : parse text = .ok tree)
    (readOther : parse other = .ok otherTree) :
    canonicalize text = canonicalize other ↔ tree.canonical = otherTree.canonical := by
  rw [canonicalize, canonicalize, read, readOther]
  exact ⟨Except.ok.inj, congrArg Except.ok⟩

end Pattern.Parser

namespace Cache.Session

/-- A text that is read compiles at any time. -/
theorem history_compile {text : Text} {tree : Pattern} (s : Session)
    (read : parse text = .ok tree) :
    ∃ compiled, (s.use (.compile text)).history = s.history ++ [.compiled text (.ok compiled)] := by
  obtain ⟨next, events, compiled, ran⟩ := compile_readable s.cache read
  refine ⟨compiled, ?_⟩
  unfold use
  dsimp only
  rw [ran]

/-- Two texts that are compiled one after the other have one procedure if they have one spelling. -/
theorem history_compile_both {text other : Text} {tree otherTree : Pattern} (uses : List Use)
    (read : parse text = .ok tree) (readOther : parse other = .ok otherTree) :
    ∃ one two, (after (uses ++ [.compile text, .compile other])).history =
        (after uses).history ++ [.compiled text (.ok one), .compiled other (.ok two)] ∧
      (one = two ↔ canonicalize text = canonicalize other) := by
  have steps : after (uses ++ [.compile text, .compile other]) =
      ((after uses).use (.compile text)).use (.compile other) := by
    rw [after, List.foldl_append]
    rfl
  obtain ⟨one, first⟩ := history_compile (after uses) read
  obtain ⟨two, second⟩ := history_compile ((after uses).use (.compile text)) readOther
  rw [first, List.append_assoc, ← steps] at second
  have consistent := (sound_after (uses ++ [.compile text, .compile other])).consistent
  obtain ⟨shared, equal⟩ := consistent.shared text other one two (by simp [second]) (by simp [second])
  exact ⟨one, two, second, fun same => shared.mp (congrArg _ same), fun same => equal (shared.mpr same)⟩

end Cache.Session

namespace Pattern.Parser

open Cache (Session)

/-- Two texts have one canonical spelling if and only if their trees agree node by node, where
numbers in one place have one value and, unless this is below `10 ^ 21` in magnitude, are of one kind.
Where they have it, they have one procedure whenever both are compiled, and else each has its own. -/
theorem spelling_shared_iff {text other : Text} {tree otherTree : Pattern}
    (read : parse text = .ok tree) (readOther : parse other = .ok otherTree) :
    (canonicalize text = canonicalize other ↔
      tree.AgreesUpTo Number.Interchangeable otherTree) ∧
    ∀ uses, ∃ one two, (Session.after (uses ++ [.compile text, .compile other])).history =
        (Session.after uses).history ++ [.compiled text (.ok one), .compiled other (.ok two)] ∧
      (one = two ↔ tree.AgreesUpTo Number.Interchangeable otherTree) := by
  have same := (canonicalize_eq_iff read readOther).trans (canonical_eq_iff read readOther)
  refine ⟨same, fun uses => ?_⟩
  obtain ⟨one, two, history, shared⟩ := Session.history_compile_both uses read readOther
  exact ⟨one, two, history, shared.trans same⟩

/-- A float below the switch is spelled as the integer. -/
theorem spelling_shared_iff_thousand :
    ∃ tree otherTree, parse (Text.ofString "1e3") = .ok tree ∧
      parse (Text.ofString "1000") = .ok otherTree ∧
      canonicalize (Text.ofString "1e3") = canonicalize (Text.ofString "1000") := by
  have token : (Cursor.start (Text.ofString "1e3")).number =
      .ok (some (.float (Binary.ofInt _ 1000)), ⟨Text.ofString "1e3", [], 3⟩) := by decide +kernel
  have tokenOther : (Cursor.start (Text.ofString "1000")).number =
      .ok (some (.int 1000), ⟨Text.ofString "1000", [], 4⟩) := by decide +kernel
  have read := Grammar.parse_number token rfl
  have readOther := Grammar.parse_number tokenOther rfl
  have exact : (Number.float (Binary.ofInt .binary64 1000)).exact = .rational 1000 := by
    decide +kernel
  refine ⟨_, _, read, readOther, (spelling_shared_iff read readOther).1.mpr ⟨rfl, ?_⟩⟩
  exact .cons ⟨exact, .inl ⟨1000, exact, by norm_num⟩⟩ .nil

/-- At `10 ^ 21` a float and an integer of one value are spelled in two ways. -/
theorem spelling_differs_from_switch :
    ∃ tree otherTree, parse (Text.ofString "1e21") = .ok tree ∧
      parse (Text.ofString "1000000000000000000000") = .ok otherTree ∧
      tree.AgreesUpTo (fun a b => a.exact = b.exact) otherTree ∧
      canonicalize (Text.ofString "1e21") ≠
        canonicalize (Text.ofString "1000000000000000000000") := by
  have token : (Cursor.start (Text.ofString "1e21")).number =
      .ok (some (.float (Binary.ofInt _ (10 ^ 21))), ⟨Text.ofString "1e21", [], 4⟩) := by
    decide +kernel
  have tokenOther : (Cursor.start (Text.ofString "1000000000000000000000")).number =
      .ok (some (.int (10 ^ 21)), ⟨Text.ofString "1000000000000000000000", [], 22⟩) := by
    decide +kernel
  have read := Grammar.parse_number token rfl
  have readOther := Grammar.parse_number tokenOther rfl
  have exact : (Number.float (Binary.ofInt .binary64 (10 ^ 21))).exact = .rational (10 ^ 21) := by
    decide +kernel
  refine ⟨_, _, read, readOther, ⟨rfl, .cons exact .nil⟩, ?_⟩
  rw [ne_eq, canonicalize_eq_iff read readOther, canonical_eq_iff read readOther]
  rintro ⟨-, numbers⟩
  obtain ⟨⟨-, ⟨q, value, below⟩ | kind⟩, -⟩ := List.forall₂_cons.mp numbers
  · cases exact.symm.trans value
    norm_num at below
  · cases kind

end Pattern.Parser

end PatternDispatch
