import PatternDispatch.Pattern.Build
import PatternDispatch.Proofs.ReadableProcedure

/-!
The shape of the trees that texts are read as, said of every node that occurs in a tree and of its
children. The checks on class patterns and on compiling are for trees built by hand: a tree that is
read passes all of them.
-/

namespace PatternDispatch.Pattern

open Character

/-- The nodes of a tree: the tree itself and the nodes of its children. -/
inductive Occurs : Pattern → Pattern → Prop where
  | root (p : Pattern) : Occurs p p
  | child {p child q : Pattern} : child ∈ p.children → Occurs child q → Occurs p q

section Occurs

variable {p q r : Pattern}

theorem Occurs.trans (first : p.Occurs q) (second : q.Occurs r) : p.Occurs r := by
  induction first with
  | root => exact second
  | child member _ ih => exact .child member (ih second)

theorem Occurs.inside (occurs : p.Occurs q) (member : r ∈ q.children) : p.Occurs r :=
  occurs.trans (.child member (.root r))

end Occurs

/-- A key, with a pattern for its value or without one. -/
def isField : Pattern → Bool
  | key _ | keyValue _ _ => true
  | _ => false

/-- The name under which a node captures its whole value. -/
def captureName? : Pattern → Option Text
  | identifier name | binder name _ => some name
  | _ => none

/-- Which children a node has. -/
structure Placed (p : Pattern) : Prop where
  noArguments : ∀ q ∈ p.children, ∀ items, q ≠ .argumentList items
  oneRest : p.children.countP isRest ≤ 1
  rest : ∀ q ∈ p.children, q.isRest = true →
    ∃ items, p = .argumentList items ∨ p = .array items ∨ p = .object items
  field : ∀ q ∈ p.children, q.isField = true → ∃ items, p = .object items
  /-- The rest of an object holds a name or nothing. -/
  fields : ∀ items, p = .object items → ∀ q ∈ items,
    q.isField = true ∨ q = .rest .wildcard ∨ ∃ name, q = .rest (.identifier name)

/-- What a node says of itself. -/
structure Formed (p : Pattern) : Prop where
  binder : ∀ name inner, p = .binder name inner → inner.isStructure = true
  classNode : p.kind = "class" → ∃ name destructure components,
    ofClass name destructure components = .ok p ∧ p.children = components.toList
  captureName : ∀ name, p.captureName? = some name →
    Token.IsName isLower name ∧ name ∉ Token.keywords
  number : p ≠ .number (.float .nan)

/-- A tree whose nodes are all in their places. -/
structure WellFormed (tree : Pattern) : Prop where
  root : ∃ items, tree = .argumentList items
  placed : ∀ p, tree.Occurs p → p.Placed
  formed : ∀ p, tree.Occurs p → p.Formed

/-- A capture name is no keyword. -/
theorem IsCaptureName.not_keyword {name : Text} (isName : IsCaptureName name) :
    name ∉ Token.keywords := by
  intro member
  have whole : Token.word name name = true :=
    Token.word_iff.mpr ⟨[], (List.append_nil name).symm, rfl⟩
  rw [isName.2 name member] at whole
  cases whole

/-- Every class node is one that the check on its components lets through. -/
theorem exists_ofClass {p : Pattern} (isClass : p.kind = "class") :
    ∃ name destructure components,
      ofClass name destructure components = .ok p ∧ p.children = components.toList := by
  cases p with
  | tag name => exact ⟨name, Text.ofString "none", none, rfl, rfl⟩
  | tagArray name items => exact ⟨name, Text.ofString "positional", some (.array items), rfl, rfl⟩
  | tagObject name items => exact ⟨name, Text.ofString "keyed", some (.object items), rfl, rfl⟩
  | _ => exact absurd isClass (by simp [kind])

/-! ## Children of readable trees -/

/-- A child that its parent can have in a tree that is read. -/
def Fits : Pattern → Pattern → Prop
  | .array _, q | .argumentList _, q => Readable (.item .sequence) q
  | .object _, q => Readable (.item .fields) q
  | _, q => Readable .pattern q

section Readable

variable {role : Role} {p q : Pattern}

theorem Readable.fits (readable : Readable role p) : ∀ q ∈ p.children, Fits p q := by
  induction readable with
  | array each | object each => exact each
  | tagArray _ each rests =>
    intro q member
    rw [List.mem_singleton.mp member]
    exact .array each rests
  | tagObject _ each rests =>
    intro q member
    rw [List.mem_singleton.mp member]
    exact .object each rests
  | binder _ _ inner | extractorOf _ inner | rest inner | keyValue _ inner =>
    intro q member
    rw [List.mem_singleton.mp member]
    exact inner
  | element _ ih => exact ih
  | _ => exact fun _ member => nomatch member

theorem Readable.oneRest (readable : Readable role p) : p.children.countP isRest ≤ 1 := by
  induction readable with
  | array _ rests | object _ rests => exact rests
  | element _ ih => exact ih
  | _ => exact (List.countP_le_length).trans (by simp [children])

theorem Readable.formed (readable : Readable role p) : p.Formed where
  binder name inner same := by
    subst same
    cases readable with
    | binder _ structured => exact structured
    | element readable => cases readable with
      | binder _ structured => exact structured
  classNode := exists_ofClass
  captureName name captured := by
    induction readable with
    | identifier isName | binder isName =>
      cases captured
      exact ⟨isName.1, isName.not_keyword⟩
    | element _ ih => exact ih captured
    | _ => cases captured
  number := by
    rintro rfl
    cases readable with
    | number isLiteral => exact isLiteral rfl
    | element readable => cases readable with
      | number isLiteral => exact isLiteral rfl

theorem Readable.not_arguments (readable : Readable role q) (items : List Pattern) :
    q ≠ .argumentList items := by
  rintro rfl
  cases readable with
  | element readable => cases readable

/-- What stands where a pattern can stand is no rest and no field. -/
theorem Readable.plain (readable : Readable .pattern q) : q.isRest = false ∧ q.isField = false := by
  cases readable <;> exact ⟨rfl, rfl⟩

theorem Readable.not_field (readable : Readable (.item .sequence) q) : q.isField = false := by
  cases readable with
  | element readable => exact readable.plain.2
  | rest => rfl

theorem Readable.field_cases (readable : Readable (.item .fields) q) :
    q.isField = true ∨ q = .rest .wildcard ∨ ∃ name, q = .rest (.identifier name) := by
  cases readable with
  | rest _ holds =>
    obtain rfl | ⟨name, rfl⟩ := holds rfl
    · exact .inr (.inl rfl)
    · exact .inr (.inr ⟨name, rfl⟩)
  | key | keyValue => exact .inl rfl

theorem Fits.readable (fits : Fits p q) : ∃ role, Readable role q := by
  cases p <;> exact ⟨_, fits⟩

/-- Children that fit are in their places. -/
theorem placed_of_fits (fits : ∀ q ∈ p.children, Fits p q)
    (rests : p.children.countP isRest ≤ 1) : p.Placed where
  noArguments q member := by
    obtain ⟨role, readable⟩ := (fits q member).readable
    exact readable.not_arguments
  oneRest := rests
  rest q member isRest := by
    have fit := fits q member
    cases p with
    | argumentList items => exact ⟨items, .inl rfl⟩
    | array items => exact ⟨items, .inr (.inl rfl)⟩
    | object items => exact ⟨items, .inr (.inr rfl)⟩
    | _ => cases isRest.symm.trans (Readable.plain fit).1
  field q member isField := by
    have fit := fits q member
    cases p with
    | object items => exact ⟨items, rfl⟩
    | argumentList items | array items => cases isField.symm.trans (Readable.not_field fit)
    | _ => cases isField.symm.trans (Readable.plain fit).2
  fields items same q member := by
    subst same
    exact (fits q member).field_cases

theorem Readable.placed (readable : Readable role p) : p.Placed :=
  placed_of_fits readable.fits readable.oneRest

end Readable

/-! ## Trees of texts -/

/-- Whatever occurs in a readable tree is readable itself. -/
theorem Occurs.readable {p q : Pattern} (occurs : p.Occurs q) {role : Role}
    (readable : Readable role p) : ∃ other, Readable other q := by
  induction occurs generalizing role with
  | root p => exact ⟨role, readable⟩
  | child member _ ih =>
    obtain ⟨between, child⟩ := (readable.fits _ member).readable
    exact ih child

theorem ReadableItems.wellFormed {items : List Pattern} (readable : ReadableItems .sequence items) :
    (argumentList items).WellFormed where
  root := ⟨items, rfl⟩
  placed p occurs := by
    cases occurs with
    | root => exact placed_of_fits readable.each readable.oneRest
    | child member below =>
      obtain ⟨role, found⟩ := below.readable (readable.each _ member)
      exact found.placed
  formed p occurs := by
    cases occurs with
    | root => exact ⟨nofun, fun isClass => absurd isClass (by simp [kind]), nofun, nofun⟩
    | child member below =>
      obtain ⟨role, found⟩ := below.readable (readable.each _ member)
      exact found.formed

namespace Parser

/-- A tree that is read from a text is well formed, and compiling it never fails: its procedure has
the spelling, the captures and the items of the tree. -/
theorem parsed_wellFormed {text : Text} {tree : Pattern} (read : parse text = .ok tree) :
    tree.WellFormed ∧
      Procedure.ofTree tree = .ok ⟨tree.canonical, tree.captureCount, tree.children⟩ := by
  obtain ⟨items, rfl, readable⟩ := Grammar.readable_of_parse read
  exact ⟨readable.wellFormed, Procedure.ofTree_readable readable⟩

/-- A name may begin with a keyword. A keyword with a letter behind it that is part of no name is
neither itself nor a name: the text is refused. -/
theorem parsed_wellFormed_keyword :
    (∃ tree, parse (Text.ofString "nullable@X\x7ba, b: null, ...c\x7d, ...") = .ok tree ∧
      tree.kinds = ["argumentList", "binder", "class", "object", "key", "keyValue", "null", "rest",
        "identifier", "rest", "wildcard"] ∧
      tree.WellFormed ∧
      Procedure.ofTree tree = .ok ⟨tree.canonical, tree.captureCount, tree.children⟩) ∧
    ∀ tree, parse (Text.ofString "nullé") ≠ .ok tree := by
  constructor
  · have kinds : (parse (Text.ofString "nullable@X\x7ba, b: null, ...c\x7d, ...")).map kinds =
        .ok ["argumentList", "binder", "class", "object", "key", "keyValue", "null", "rest",
          "identifier", "rest", "wildcard"] := by decide +kernel
    obtain ⟨tree, read, same⟩ := exists_of_map_ok kinds
    exact ⟨tree, read, same, parsed_wellFormed read⟩
  · intro tree read
    have refused : (parse (Text.ofString "nullé")).isOk = false := by decide +kernel
    rw [read] at refused
    cases refused

end Parser

end PatternDispatch.Pattern
