import PatternDispatch.Proofs.GrammarCompleteness

/-!
How deep the trees of texts are. Every level of a tree takes a character of its own, so that the
levels below the root are no more than the characters of the text.
-/

namespace PatternDispatch

namespace Pattern

mutual

/-- How many levels of nodes a tree has below its root. -/
def nesting : Pattern → Nat
  | binder _ inner | rest inner | keyValue _ inner | extractorOf _ inner => inner.nesting + 1
  | array items | object items | argumentList items => itemNesting items
  | tagArray _ items | tagObject _ items => itemNesting items + 1
  | _ => 0

/-- How many levels of nodes the items of a list have, their own included. -/
def itemNesting : List Pattern → Nat
  | [] => 0
  | item :: items => max (item.nesting + 1) (itemNesting items)

end

end Pattern

namespace Grammar

open Pattern

/-- A part leaves fewer characters than it has levels. The brackets of enclosed items, and what
begins a pattern that holds another one, are not part of what they hold. -/
def Shallow : Part → Cursor → Cursor → Prop
  | .pattern form, c, d | .item _ form, c, d =>
    form.tree.nesting + d.buffer.length < c.buffer.length
  | .items _ forms _, c, d =>
    itemNesting (Form.trees forms) + d.buffer.length ≤ c.buffer.length
  | .enclosed _ _ _ forms _, c, d =>
    itemNesting (Form.trees forms) + 1 + d.buffer.length < c.buffer.length

variable {c d : Cursor}

/-- What has no levels below it takes some text. -/
theorem shallow_leaf {form : Form} (passes : c.Passes d) (leaf : form.tree.nesting = 0) :
    form.tree.nesting + d.buffer.length < c.buffer.length := by
  rw [leaf, Nat.zero_add]
  exact passes.length_lt

theorem Spells.shallow {part : Part} (derived : Spells part c d) : Shallow part c d := by
  induction derived with
  | wildcard span => exact shallow_leaf (Spells.wildcard span).extent rfl
  | null word => exact shallow_leaf (Spells.null word).extent rfl
  | undefined word => exact shallow_leaf (Spells.undefined word).extent rfl
  | boolean value word => exact shallow_leaf (Spells.boolean value word).extent rfl
  | number read span => exact shallow_leaf (Spells.number read span).extent rfl
  | string read => exact shallow_leaf (Spells.string read).extent rfl
  | identifier name => exact shallow_leaf (Spells.identifier name).extent rfl
  | tag name => exact shallow_leaf (Spells.tag name).extent rfl
  | extractor dollar name => exact shallow_leaf (Spells.extractor dollar name).extent rfl
  | extractorEmpty dollar name opens blanks closes =>
    exact shallow_leaf (Spells.extractorEmpty dollar name opens blanks closes).extent rfl
  | key key => exact shallow_leaf key.passes rfl
  | binder name bound _ _ ih =>
    have named := name.1.passes.length_lt
    have marked := bound.length_le
    simp only [Shallow, Form.tree, nesting] at ih ⊢
    omega
  | array _ ih | object _ ih =>
    simp only [Shallow, Form.tree, nesting] at ih ⊢
    omega
  | tagArray name _ ih | tagObject name _ ih =>
    have named := name.passes.length_lt
    simp only [Shallow, Form.tree, nesting] at ih ⊢
    omega
  | extractorOf dollar name opens before _ after closes ih =>
    have marked := dollar.length_le
    have named := name.passes.length_lt
    have opened := opens.length_le
    have inside := before.length_le
    have behind := after.length_le
    have closed := closes.length_le
    simp only [Shallow, Form.tree, nesting] at ih ⊢
    omega
  | element _ ih => exact ih
  | dots span =>
    have length := congrArg List.length span.buffer
    rw [List.length_append, show Token.dots.length = 3 from rfl] at length
    simp only [Shallow, Form.tree, nesting]
    omega
  | rest dots _ _ ih =>
    have dotted := dots.length_lt (by decide)
    simp only [Shallow, Form.tree, nesting] at ih ⊢
    omega
  | namedRest name dots =>
    have named := name.1.passes.length_lt
    have dotted := dots.length_lt (by decide)
    simp only [Shallow, Form.tree, nesting]
    omega
  | keyValue key before colon after _ ih =>
    have named := key.passes.length_lt
    have toColon := before.length_le
    have marked := colon.length_le
    have toValue := after.length_le
    simp only [Shallow, Form.tree, nesting] at ih ⊢
    omega
  | none => simp only [Shallow, Form.trees, itemNesting, Nat.zero_add, Nat.le_refl]
  | one _ ih =>
    simp only [Shallow, Form.trees, itemNesting] at ih ⊢
    omega
  | trailing _ blanks comma ih =>
    have toComma := blanks.length_le
    have marked := comma.length_le
    simp only [Shallow, Form.trees, itemNesting] at ih ⊢
    omega
  | more _ before comma after _ ih ihItems =>
    have toComma := before.length_le
    have marked := comma.length_le
    have toOthers := after.length_le
    simp only [Shallow, Form.trees, itemNesting] at ih ihItems ⊢
    omega
  | enclosed opens before _ after closes _ ih =>
    have opened := opens.length_lt (by simp)
    have inside := before.length_le
    have behind := after.length_le
    have closed := closes.length_lt (by simp)
    simp only [Shallow] at ih ⊢
    omega

/-- A tree has no more levels below its root than its text has characters. -/
theorem nesting_le_length {text : Text} {tree : Pattern} (derived : Derives text tree) :
    tree.nesting ≤ text.length := by
  obtain ⟨forms, trailing, ⟨a, b, d, before, items, after, -, -⟩, rfl⟩ := derived
  have shallow : itemNesting (Form.trees forms) + b.buffer.length ≤ a.buffer.length := items.shallow
  have within : a.buffer.length ≤ text.length := before.length_le
  rw [nesting]
  omega

end Grammar

end PatternDispatch
