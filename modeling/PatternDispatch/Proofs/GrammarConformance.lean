import PatternDispatch.Proofs.GrammarCompleteness

/-!
The parser accepts exactly the grammar, and each text has one form. The reader settles the tree and
the end of a stretch; what a tree leaves open, the flags for commas and empty parentheses, is settled
by the character behind the last item.
-/

namespace PatternDispatch.Grammar

open Pattern.Parser

section Unique

variable {a b c d e : Cursor} {place : Place} {form other : Form}

/-- Two patterns at one place that can both end derive one tree and end together. -/
theorem Spells.pattern_determined (one : Spells (.pattern form) c d)
    (two : Spells (.pattern other) c e) (endsOne : Followed d) (endsTwo : Followed e) :
    other.tree = form.tree ∧ e = d := by
  have readOne := (one.reads c.buffer.length (by omega) endsOne).1
  have readTwo := (two.reads c.buffer.length (by omega) endsTwo).1
  rw [readOne] at readTwo
  simp only [Except.ok.injEq, Prod.mk.injEq, Option.some.injEq] at readTwo
  exact ⟨readTwo.1.symm, readTwo.2.symm⟩

theorem Spells.item_determined (one : Spells (.item place form) c d)
    (two : Spells (.item place other) c e) (endsOne : Followed d) (endsTwo : Followed e) :
    other.tree = form.tree := by
  obtain ⟨f, readOne, -⟩ := one.reads c.buffer.length (Nat.le_refl _) endsOne
  obtain ⟨g, readTwo, -⟩ := two.reads c.buffer.length (Nat.le_refl _) endsTwo
  rw [readOne] at readTwo
  simp only [Except.ok.injEq, Prod.mk.injEq, Option.some.injEq] at readTwo
  exact readTwo.1.symm

theorem Key.determined {name : Text} (one : Key name c d) (two : Key name c e) : e = d := by
  have read := (key_of_named one).symm.trans (key_of_named two)
  simp only [Except.ok.injEq, Prod.mk.injEq, true_and] at read
  exact read.symm

/-- Where an item begins, no list ends. -/
theorem Spells.not_ended (derived : Spells (.item place form) c d) (ends : Followed d)
    (ended : Ended c) : False := by
  obtain ⟨e, found, -⟩ := derived.reads c.buffer.length (Nat.le_refl _) ends
  have other : Token.startsWith isOpening c.buffer = false := startsWith_false fun b head => by
    rw [← derived.reads.item_visible ends] at head
    exact isFollower_not_opening (ended.followed b head)
  rw [itemReader_silent place _ other] at found
  cases found

/-- Where a comma stands behind blanks, no list ends. -/
theorem Ended.no_comma (ended : Ended a) (blanks : Blanks a b)
    (comma : b.Spans (Text.ofString ",") e) : False := by
  have closer := ended ','.toNat
    (by rw [blanks.skipBlanks_span comma rfl]; exact comma.head)
  cases closer

theorem Ended.of_skipBlanks (ended : Ended c) (same : c.skipBlanks = d.skipBlanks) : Ended d := by
  unfold Ended
  rw [← same]
  exact ended

/-- No other form fits a stretch of text that can end where it does. -/
def Settled : Part → Cursor → Cursor → Prop
  | .pattern form, c, d => Followed d →
      ∀ other e, Spells (.pattern other) c e → Followed e → other = form ∧ e = d
  | .item place form, c, d => Followed d →
      ∀ other e, Spells (.item place other) c e → Followed e → other = form ∧ e = d
  | .items place forms trailing, c, d => Ended d →
      ∀ others flag b e, b.skipBlanks = c.skipBlanks → Spells (.items place others flag) b e →
        Ended e → others = forms ∧ flag = trailing ∧ e.skipBlanks = d.skipBlanks
  | .enclosed opening closing place forms trailing, c, d => isCloser closing.toNat = true →
      ∀ others flag e, Spells (.enclosed opening closing place others flag) c e →
        others = forms ∧ flag = trailing ∧ e = d

/-- The form of a pattern without parts is settled by its tree. -/
theorem settled_plain (derived : Spells (.pattern form) c d)
    (plain : ∀ other : Form, other.tree = form.tree → other = form) :
    Settled (.pattern form) c d := fun ends other _ two endsOther =>
  ⟨plain other (derived.pattern_determined two ends endsOther).1,
    (derived.pattern_determined two ends endsOther).2⟩

theorem settled_number {token : Text} {value : Number} (read : c.number = .ok (some value, d))
    (span : c.Spans token d) : Settled (.pattern (.number token value)) c d := by
  intro ends other e two endsOther
  obtain ⟨same, rfl⟩ := (Spells.number read span).pattern_determined two ends endsOther
  cases other with
  | number others found =>
    cases same
    cases two with
    | number _ other => exact ⟨by rw [other.text_unique span], rfl⟩
  | _ => cases same

theorem settled_binder {name : Text} {inner : Form} (captured : CaptureName name c a)
    (bound : a.Spans (Text.ofString "@") b) (structured : inner.isStructure = true)
    (derived : Spells (.pattern inner) b d) (settled : Settled (.pattern inner) b d) :
    Settled (.pattern (.binder name inner)) c d := by
  intro ends other e two endsOther
  have one : Spells (.pattern (.binder name inner)) c d := .binder captured bound structured derived
  obtain ⟨same, rfl⟩ := one.pattern_determined two ends endsOther
  cases other with
  | binder name' inner' =>
    cases two with
    | binder captured' bound' _ derived' =>
      obtain ⟨rfl, -⟩ := Pattern.binder.inj same
      obtain rfl := captured.1.unique captured'.1
      obtain rfl := bound.unique bound'
      rw [(settled ends inner' _ derived' ends).1]
      exact ⟨rfl, rfl⟩
  | _ => cases same

theorem settled_array {forms : List Form} {trailing : Bool}
    (derived : Spells (.enclosed '[' ']' .sequence forms trailing) c d)
    (settled : Settled (.enclosed '[' ']' .sequence forms trailing) c d) :
    Settled (.pattern (.array forms trailing)) c d := by
  intro ends other e two endsOther
  obtain ⟨same, rfl⟩ := (Spells.array derived).pattern_determined two ends endsOther
  cases other with
  | array others flag =>
    cases two with
    | array derived' =>
      obtain ⟨rfl, rfl, -⟩ := settled rfl others flag _ derived'
      exact ⟨rfl, rfl⟩
  | _ => cases same

theorem settled_object {forms : List Form} {trailing : Bool}
    (derived : Spells (.enclosed '\x7b' '\x7d' .fields forms trailing) c d)
    (settled : Settled (.enclosed '\x7b' '\x7d' .fields forms trailing) c d) :
    Settled (.pattern (.object forms trailing)) c d := by
  intro ends other e two endsOther
  obtain ⟨same, rfl⟩ := (Spells.object derived).pattern_determined two ends endsOther
  cases other with
  | object others flag =>
    cases two with
    | object derived' =>
      obtain ⟨rfl, rfl, -⟩ := settled rfl others flag _ derived'
      exact ⟨rfl, rfl⟩
  | _ => cases same

theorem settled_tagArray {name : Text} {forms : List Form} {trailing : Bool}
    (named : Name Character.isUpper name c a)
    (derived : Spells (.enclosed '(' ')' .sequence forms trailing) a d)
    (settled : Settled (.enclosed '(' ')' .sequence forms trailing) a d) :
    Settled (.pattern (.tagArray name forms trailing)) c d := by
  intro ends other e two endsOther
  obtain ⟨same, rfl⟩ := (Spells.tagArray named derived).pattern_determined two ends endsOther
  cases other with
  | tagArray name' others flag =>
    cases two with
    | tagArray named' derived' =>
      obtain ⟨rfl, -⟩ := Pattern.tagArray.inj same
      obtain rfl := named.unique named'
      obtain ⟨rfl, rfl, -⟩ := settled rfl others flag _ derived'
      exact ⟨rfl, rfl⟩
  | _ => cases same

theorem settled_tagObject {name : Text} {forms : List Form} {trailing : Bool}
    (named : Name Character.isUpper name c a)
    (derived : Spells (.enclosed '\x7b' '\x7d' .fields forms trailing) a d)
    (settled : Settled (.enclosed '\x7b' '\x7d' .fields forms trailing) a d) :
    Settled (.pattern (.tagObject name forms trailing)) c d := by
  intro ends other e two endsOther
  obtain ⟨same, rfl⟩ := (Spells.tagObject named derived).pattern_determined two ends endsOther
  cases other with
  | tagObject name' others flag =>
    cases two with
    | tagObject named' derived' =>
      obtain ⟨rfl, -⟩ := Pattern.tagObject.inj same
      obtain rfl := named.unique named'
      obtain ⟨rfl, rfl, -⟩ := settled rfl others flag _ derived'
      exact ⟨rfl, rfl⟩
  | _ => cases same

/-- Where an extractor ends at its name, no parentheses open. -/
theorem no_parentheses {f g : Cursor} {name other : Text} (dollar : c.Spans (Text.ofString "$") a)
    (named : Name Character.isNameStart name a d) (dollar' : c.Spans (Text.ofString "$") b)
    (named' : Name Character.isNameStart other b f) (opens : f.Spans (Text.ofString "(") g)
    (ends : Followed d) : False := by
  obtain rfl := dollar.unique dollar'
  obtain rfl := named.unique named'
  have wrong := ends.not_head (b := '('.toNat) rfl rfl
  rw [startsWith_of_head opens.head] at wrong
  cases wrong

theorem settled_extractor {name : Text} (dollar : c.Spans (Text.ofString "$") a)
    (named : Name Character.isNameStart name a d) :
    Settled (.pattern (.extractor name)) c d := by
  intro ends other e two endsOther
  obtain ⟨same, rfl⟩ := (Spells.extractor dollar named).pattern_determined two ends endsOther
  cases other with
  | extractor => cases same; exact ⟨rfl, rfl⟩
  | extractorEmpty =>
    cases two with
    | extractorEmpty dollar' named' opens =>
      exact absurd ends (no_parentheses dollar named dollar' named' opens)
  | _ => cases same

theorem settled_extractorEmpty {f g : Cursor} {name : Text}
    (dollar : c.Spans (Text.ofString "$") a) (named : Name Character.isNameStart name a b)
    (opens : b.Spans (Text.ofString "(") f) (blanks : Blanks f g)
    (closes : g.Spans (Text.ofString ")") d) : Settled (.pattern (.extractorEmpty name)) c d := by
  intro ends other e two endsOther
  have one : Spells (.pattern (.extractorEmpty name)) c d :=
    .extractorEmpty dollar named opens blanks closes
  obtain ⟨same, rfl⟩ := one.pattern_determined two ends endsOther
  cases other with
  | extractorEmpty => cases same; exact ⟨rfl, rfl⟩
  | extractor =>
    cases two with
    | extractor dollar' named' =>
      exact absurd endsOther (no_parentheses dollar' named' dollar named opens)
  | _ => cases same

theorem settled_extractorOf {f g h i : Cursor} {name : Text} {inner : Form}
    (dollar : c.Spans (Text.ofString "$") a) (named : Name Character.isNameStart name a b)
    (opens : b.Spans (Text.ofString "(") f) (before : Blanks f g)
    (derived : Spells (.pattern inner) g h) (after : Blanks h i)
    (closes : i.Spans (Text.ofString ")") d) (settled : Settled (.pattern inner) g h) :
    Settled (.pattern (.extractorOf name inner)) c d := by
  intro ends other e two endsOther
  have one : Spells (.pattern (.extractorOf name inner)) c d :=
    .extractorOf dollar named opens before derived after closes
  obtain ⟨same, rfl⟩ := one.pattern_determined two ends endsOther
  cases other with
  | extractorOf name' inner' =>
    cases two with
    | extractorOf dollar' named' opens' before' derived' after' closes' =>
      obtain ⟨rfl, -⟩ := Pattern.extractorOf.inj same
      obtain rfl := dollar.unique dollar'
      obtain rfl := named.unique named'
      obtain rfl := opens.unique opens'
      have endsInner := followed_of_span after closes rfl
      have endsInner' := followed_of_span after' closes' rfl
      obtain rfl : g = _ := (before.skipBlanks_eq (derived.reads.visible endsInner)).symm.trans
        (before'.skipBlanks_eq (derived'.reads.visible endsInner'))
      rw [(settled endsInner inner' _ derived' endsInner').1]
      exact ⟨rfl, rfl⟩
  | _ => cases same

theorem Spells.pattern_not_rest (derived : Spells (.pattern form) c d) : form.isRest = false := by
  cases derived <;> rfl

theorem settled_element (derived : Spells (.pattern form) c d)
    (settled : Settled (.pattern form) c d) : Settled (.item .sequence form) c d := by
  intro ends other e two endsOther
  have same := (Spells.element derived).item_determined two ends endsOther
  cases two with
  | element derived' => exact settled ends other e derived' endsOther
  | dots | rest | namedRest =>
    have noRest := derived.pattern_not_rest
    rw [← Form.isRest_tree, ← same] at noRest
    cases noRest

/-- Dots with a pattern behind them end where none could begin only if there is none. -/
theorem settled_dots (dots : c.Spans Token.dots d) : Settled (.item place .dots) c d := by
  intro ends other e two endsOther
  have one : Spells (.item place .dots) c d := .dots dots
  have same := one.item_determined two ends endsOther
  cases two with
  | dots dots' => exact ⟨rfl, (dots.unique dots').symm⟩
  | rest dots' derived' =>
    obtain rfl := dots.unique dots'
    have wrong := (derived'.reads c.buffer.length (dots.length_le.trans (by omega)) endsOther).1
    rw [patternStep_silent ends.not_opening] at wrong
    cases wrong
  | element derived' =>
    have noRest := derived'.pattern_not_rest
    rw [← Form.isRest_tree, same] at noRest
    cases noRest
  | namedRest | key | keyValue => cases same

/-- A named rest has its dots on one side. -/
theorem one_side {name : Text} (dots : c.Spans Token.dots a) (captured : CaptureName name c b) :
    False := by
  obtain ⟨x, head, lower⟩ := captured.1.head
  rw [dots.head] at head
  cases head
  cases lower

theorem settled_rest (dots : c.Spans Token.dots a) (derived : Spells (.pattern form) a d)
    (fits : place = .fields → (Form.rest form).holdsName = true)
    (settled : Settled (.pattern form) a d) : Settled (.item place (.rest form)) c d := by
  intro ends other e two endsOther
  have same := (Spells.rest dots derived fits).item_determined two ends endsOther
  cases two with
  | rest dots' derived' =>
    obtain rfl := dots.unique dots'
    obtain ⟨rfl, rfl⟩ := settled ends _ _ derived' endsOther
    exact ⟨rfl, rfl⟩
  | dots dots' =>
    obtain rfl := dots.unique dots'
    have wrong := (derived.reads c.buffer.length (dots.length_le.trans (by omega)) ends).1
    rw [patternStep_silent endsOther.not_opening] at wrong
    cases wrong
  | namedRest captured => exact absurd captured fun captured => one_side dots captured
  | element derived' =>
    have noRest := derived'.pattern_not_rest
    rw [← Form.isRest_tree, same] at noRest
    cases noRest
  | key | keyValue => cases same

theorem settled_namedRest {name : Text} (captured : CaptureName name c a)
    (dots : a.Spans Token.dots d) : Settled (.item place (.rest (.identifier name))) c d := by
  intro ends other e two endsOther
  have one : Spells (.item place (.rest (.identifier name))) c d := .namedRest captured dots
  have same := one.item_determined two ends endsOther
  cases two with
  | namedRest captured' dots' =>
    cases same
    obtain rfl := captured.1.unique captured'.1
    exact ⟨rfl, (dots.unique dots').symm⟩
  | rest dots' => exact absurd captured fun captured => one_side dots' captured
  | element derived' =>
    have noRest := derived'.pattern_not_rest
    rw [← Form.isRest_tree, same] at noRest
    cases noRest
  | dots | key | keyValue => cases same

theorem settled_key {name : Text} (named : Key name c d) : Settled (.item .fields (.key name)) c d := by
  intro ends other e two endsOther
  have same := (Spells.key named).item_determined two ends endsOther
  cases two with
  | key named' => cases same; exact ⟨rfl, named.determined named'⟩
  | dots | rest | namedRest | keyValue => cases same

theorem settled_keyValue {f g : Cursor} {name : Text} (named : Key name c a) (before : Blanks a b)
    (colon : b.Spans (Text.ofString ":") f) (after : Blanks f g)
    (derived : Spells (.pattern form) g d) (settled : Settled (.pattern form) g d) :
    Settled (.item .fields (.keyValue name form)) c d := by
  intro ends other e two endsOther
  have one : Spells (.item .fields (.keyValue name form)) c d :=
    .keyValue named before colon after derived
  have same := one.item_determined two ends endsOther
  cases two with
  | keyValue named' before' colon' after' derived' =>
    obtain ⟨rfl, -⟩ := Pattern.keyValue.inj same
    obtain rfl := named.determined named'
    obtain rfl : b = _ := (before.skipBlanks_span colon rfl).symm.trans
      (before'.skipBlanks_span colon' rfl)
    obtain rfl := colon.unique colon'
    obtain rfl : g = _ := (after.skipBlanks_eq (derived.reads.visible ends)).symm.trans
      (after'.skipBlanks_eq (derived'.reads.visible endsOther))
    obtain ⟨rfl, rfl⟩ := settled ends _ _ derived' endsOther
    exact ⟨rfl, rfl⟩
  | dots | rest | namedRest | key => cases same

end Unique

/-! ## Lists -/

section Lists

variable {a b c d e f : Cursor} {place : Place} {form : Form} {forms : List Form}
  {trailing : Bool}

/-- A list that is not empty begins with an item that can end. -/
theorem Spells.items_begin (derived : Spells (.items place (form :: forms) trailing) c d)
    (ended : Ended d) : ∃ a, Spells (.item place form) c a ∧ Followed a := by
  cases derived with
  | one inside => exact ⟨_, inside, ended.followed⟩
  | trailing inside blanks comma => exact ⟨_, inside, followed_of_span blanks comma rfl⟩
  | more inside blanks comma => exact ⟨_, inside, followed_of_span blanks comma rfl⟩

theorem Spells.items_visible (derived : Spells (.items place (form :: forms) trailing) c d)
    (ended : Ended d) : c.skipBlanks = c := by
  obtain ⟨a, inside, ends⟩ := derived.items_begin ended
  exact inside.reads.item_visible ends

/-- Where a list ends, another one is empty. -/
theorem Spells.items_empty (derived : Spells (.items place forms trailing) c d) (ended : Ended d)
    (closed : Ended c) : forms = [] ∧ trailing = false ∧ c = d := by
  cases derived with
  | none => exact ⟨rfl, rfl, rfl⟩
  | one inside => exact absurd closed (inside.not_ended ended.followed)
  | trailing inside blanks comma =>
    exact absurd closed (inside.not_ended (followed_of_span blanks comma rfl))
  | more inside blanks comma =>
    exact absurd closed (inside.not_ended (followed_of_span blanks comma rfl))

theorem settled_none : Settled (.items place [] false) c c := by
  intro ended others flag b e same two endedOther
  obtain ⟨rfl, rfl, rfl⟩ := two.items_empty endedOther (ended.of_skipBlanks same.symm)
  exact ⟨rfl, rfl, same⟩

theorem settled_one (derived : Spells (.item place form) c d)
    (settled : Settled (.item place form) c d) : Settled (.items place [form] false) c d := by
  intro ended others flag b e same two endedOther
  cases others with
  | nil =>
    obtain ⟨rfl, rfl⟩ := items_nil two
    exact absurd (endedOther.of_skipBlanks same) (derived.not_ended ended.followed)
  | cons other others =>
    rw [two.items_visible endedOther, derived.reads.item_visible ended.followed] at same
    subst same
    cases two with
    | one inside' =>
      obtain ⟨rfl, rfl⟩ := settled ended.followed _ _ inside' endedOther.followed
      exact ⟨rfl, rfl, rfl⟩
    | trailing inside' blanks' comma' =>
      obtain ⟨rfl, rfl⟩ :=
        settled ended.followed _ _ inside' (followed_of_span blanks' comma' rfl)
      exact absurd ended fun ended => ended.no_comma blanks' comma'
    | more inside' blanks' comma' =>
      obtain ⟨rfl, rfl⟩ :=
        settled ended.followed _ _ inside' (followed_of_span blanks' comma' rfl)
      exact absurd ended fun ended => ended.no_comma blanks' comma'

theorem settled_trailing (derived : Spells (.item place form) c a)
    (settled : Settled (.item place form) c a) (blanks : Blanks a b)
    (comma : b.Spans (Text.ofString ",") d) : Settled (.items place [form] true) c d := by
  intro ended others flag g e same two endedOther
  have ends : Followed a := followed_of_span blanks comma rfl
  cases others with
  | nil =>
    obtain ⟨rfl, rfl⟩ := items_nil two
    exact absurd (endedOther.of_skipBlanks same) (derived.not_ended ends)
  | cons other others =>
    rw [two.items_visible endedOther, derived.reads.item_visible ends] at same
    subst same
    cases two with
    | one inside' =>
      obtain ⟨rfl, rfl⟩ := settled ends _ _ inside' endedOther.followed
      exact absurd endedOther fun ended => ended.no_comma blanks comma
    | trailing inside' blanks' comma' =>
      obtain ⟨rfl, rfl⟩ := settled ends _ _ inside' (followed_of_span blanks' comma' rfl)
      obtain rfl := (blanks.skipBlanks_span comma rfl).symm.trans
        (blanks'.skipBlanks_span comma' rfl)
      obtain rfl := comma.unique comma'
      exact ⟨rfl, rfl, rfl⟩
    | more inside' blanks' comma' after' later' =>
      obtain ⟨rfl, rfl⟩ := settled ends _ _ inside' (followed_of_span blanks' comma' rfl)
      obtain rfl := (blanks.skipBlanks_span comma rfl).symm.trans
        (blanks'.skipBlanks_span comma' rfl)
      obtain rfl := comma.unique comma'
      obtain ⟨empty, -⟩ :=
        later'.items_empty endedOther (ended.of_skipBlanks after'.skipBlanks.symm)
      cases empty

theorem settled_more {next : Form} (derived : Spells (.item place form) c a)
    (settled : Settled (.item place form) c a) (before : Blanks a b)
    (comma : b.Spans (Text.ofString ",") e) (after : Blanks e f)
    (later : Spells (.items place (next :: forms) trailing) f d)
    (settledLater : Settled (.items place (next :: forms) trailing) f d) :
    Settled (.items place (form :: next :: forms) trailing) c d := by
  intro ended others flag g h same two endedOther
  have ends : Followed a := followed_of_span before comma rfl
  cases others with
  | nil =>
    obtain ⟨rfl, rfl⟩ := items_nil two
    exact absurd (endedOther.of_skipBlanks same) (derived.not_ended ends)
  | cons other others =>
    rw [two.items_visible endedOther, derived.reads.item_visible ends] at same
    subst same
    cases two with
    | one inside' =>
      obtain ⟨rfl, rfl⟩ := settled ends _ _ inside' endedOther.followed
      exact absurd endedOther fun ended => ended.no_comma before comma
    | trailing inside' blanks' comma' =>
      obtain ⟨rfl, rfl⟩ := settled ends _ _ inside' (followed_of_span blanks' comma' rfl)
      obtain rfl := (before.skipBlanks_span comma rfl).symm.trans
        (blanks'.skipBlanks_span comma' rfl)
      obtain rfl := comma.unique comma'
      obtain ⟨empty, -⟩ := later.items_empty ended (endedOther.of_skipBlanks after.skipBlanks.symm)
      cases empty
    | more inside' blanks' comma' after' later' =>
      obtain ⟨rfl, rfl⟩ := settled ends _ _ inside' (followed_of_span blanks' comma' rfl)
      obtain rfl := (before.skipBlanks_span comma rfl).symm.trans
        (blanks'.skipBlanks_span comma' rfl)
      obtain rfl := comma.unique comma'
      obtain ⟨sameOthers, sameFlag, reached⟩ := settledLater ended _ _ _ _
        (after'.skipBlanks.trans after.skipBlanks.symm) later' endedOther
      exact ⟨by rw [sameOthers], sameFlag, reached⟩

theorem settled_enclosed {opening closing : Char} (opens : c.Spans [opening.toNat] a)
    (before : Blanks a b) (settled : Settled (.items place forms trailing) b e) (after : Blanks e f)
    (closes : f.Spans [closing.toNat] d) :
    Settled (.enclosed opening closing place forms trailing) c d := by
  intro closer others flag g two
  have follower : isFollower closing.toNat = true := by rw [isFollower, closer, Bool.or_true]
  have visible := isFollower_not_blank follower
  have ended {e f g : Cursor} (after : Blanks e f) (closes : f.Spans [closing.toNat] g) :
      Ended e := by
    intro x head
    rw [after.skipBlanks_span closes visible, closes.head] at head
    cases head
    exact closer
  cases two with
  | enclosed opens' before' derived' after' closes' =>
    obtain rfl := opens.unique opens'
    obtain ⟨rfl, rfl, reached⟩ := settled (ended after closes) _ _ _ _
      (before'.skipBlanks.trans before.skipBlanks.symm) derived' (ended after' closes')
    obtain rfl := ((after'.skipBlanks_span closes' visible).symm.trans reached).trans
      (after.skipBlanks_span closes visible)
    exact ⟨rfl, rfl, (closes.unique closes').symm⟩

end Lists

/-- A derivation settles the form of the text it goes over. -/
theorem Spells.settled {part : Part} {c d : Cursor} (derived : Spells part c d) :
    Settled part c d := by
  induction derived with
  | wildcard span =>
    exact settled_plain (.wildcard span) fun other same => by (cases other <;> cases same); rfl
  | null word =>
    exact settled_plain (.null word) fun other same => by (cases other <;> cases same); rfl
  | undefined word =>
    exact settled_plain (.undefined word) fun other same => by (cases other <;> cases same); rfl
  | boolean value word =>
    exact settled_plain (.boolean value word) fun other same => by
      (cases other <;> cases same); rfl
  | number read span => exact settled_number read span
  | string read =>
    exact settled_plain (.string read) fun other same => by (cases other <;> cases same); rfl
  | identifier captured =>
    exact settled_plain (.identifier captured) fun other same => by
      (cases other <;> cases same); rfl
  | binder captured bound structured inside ih =>
    exact settled_binder captured bound structured inside ih
  | array inside ih => exact settled_array inside ih
  | object inside ih => exact settled_object inside ih
  | tag named =>
    exact settled_plain (.tag named) fun other same => by (cases other <;> cases same); rfl
  | tagArray named inside ih => exact settled_tagArray named inside ih
  | tagObject named inside ih => exact settled_tagObject named inside ih
  | extractor dollar named => exact settled_extractor dollar named
  | extractorEmpty dollar named opens blanks closes =>
    exact settled_extractorEmpty dollar named opens blanks closes
  | extractorOf dollar named opens before inside after closes ih =>
    exact settled_extractorOf dollar named opens before inside after closes ih
  | element inside ih => exact settled_element inside ih
  | dots dots => exact settled_dots dots
  | rest dots inside fits ih => exact settled_rest dots inside fits ih
  | namedRest captured dots => exact settled_namedRest captured dots
  | key named => exact settled_key named
  | keyValue named before colon after inside ih =>
    exact settled_keyValue named before colon after inside ih
  | none => exact settled_none
  | one inside ih => exact settled_one inside ih
  | trailing inside blanks comma ih => exact settled_trailing inside ih blanks comma
  | more inside before comma after later ih ihLater =>
    exact settled_more inside ih before comma after later ihLater
  | enclosed opens before _ after closes _ ih =>
    exact settled_enclosed opens before ih after closes

/-- Where only blanks are left, a list can end. -/
theorem ended_of_done {b d : Cursor} (blanks : Blanks b d) (done : d.buffer = []) : Ended b := by
  have skipped : b.skipBlanks = d := blanks.skipBlanks_eq (by rw [done]; rfl)
  intro x head
  rw [skipped, done] at head
  cases head

/-- A text has one form. -/
theorem SpellsText.unique {text : Text} {forms others : List Form} {trailing flag : Bool}
    (one : SpellsText forms trailing text) (two : SpellsText others flag text) :
    others = forms ∧ flag = trailing := by
  obtain ⟨a, b, d, before, derived, after, done, -⟩ := one
  obtain ⟨a', b', d', before', derived', after', done', -⟩ := two
  obtain ⟨sameForms, sameFlag, -⟩ := derived.settled (ended_of_done after done) _ _ _ _
    (before'.skipBlanks.trans before.skipBlanks.symm) derived' (ended_of_done after' done')
  exact ⟨sameForms, sameFlag⟩

/-- A text is read as a tree exactly when it derives that tree, and every other text is refused.
The derivation is unique, and texts of one form, which differ in blanks, quotes, escapes and the side
of dots only, are read alike. -/
theorem parse_conforms :
    (∀ text tree, parse text = .ok tree ↔ Derives text tree) ∧
      (∀ text, (∃ e, parse text = .error e) ↔ ∀ tree, ¬Derives text tree) ∧
      (∀ text forms others trailing flag, SpellsText forms trailing text →
        SpellsText others flag text → others = forms ∧ flag = trailing) ∧
      (∀ text respelled forms trailing, SpellsText forms trailing text →
        SpellsText forms trailing respelled →
        parse respelled = parse text ∧ parse text = .ok (.argumentList (Form.trees forms))) := by
  have accepts (text : Text) (tree : Pattern) : parse text = .ok tree ↔ Derives text tree :=
    ⟨derives_of_parse, parse_of_derives⟩
  refine ⟨accepts, fun text => ?_, fun _ _ _ _ _ => SpellsText.unique, ?_⟩
  · constructor
    · rintro ⟨e, refused⟩ tree derived
      rw [parse_of_derives derived] at refused
      cases refused
    · intro underived
      cases read : parse text with
      | error e => exact ⟨e, rfl⟩
      | ok tree => exact absurd (derives_of_parse read) (underived tree)
  · intro text respelled forms trailing one two
    rw [parse_of_spellsText one, parse_of_spellsText two]
    exact ⟨rfl, rfl⟩

/-- The name of one letter that begins no keyword. -/
theorem captureName_x {c d : Cursor} (span : c.Spans (Text.ofString "x") d)
    (stop : Token.startsWith Character.isNamePart d.buffer = false) :
    CaptureName (Text.ofString "x") c d := by
  refine ⟨⟨span, ⟨_, _, rfl, rfl, by simp⟩, stop⟩, ?_⟩
  intro w member e word
  have others : ∀ w ∈ Token.keywords, w.head? ≠ some 'x'.toNat := by decide
  obtain ⟨r, same⟩ := word.1.1
  have head := span.head
  rw [← same] at head
  cases w with
  | nil => revert member; decide
  | cons b bs => exact others _ member head

/-- The two sides on which a named rest can have its dots, and a comma behind nothing. -/
theorem parse_conforms_dots :
    SpellsText [.rest (.identifier (Text.ofString "x"))] false (Text.ofString "x...") ∧
      SpellsText [.rest (.identifier (Text.ofString "x"))] false (Text.ofString "...x") ∧
      parse (Text.ofString "...x") = parse (Text.ofString "x...") ∧
      ∀ tree, ¬Derives (Text.ofString ",") tree := by
  have named : SpellsText [.rest (.identifier (Text.ofString "x"))] false
      (Text.ofString "x...") :=
    ⟨_, _, _, Blanks.refl _, .one (.namedRest (captureName_x (Cursor.Spans.of_buffer rfl) rfl)
      (Cursor.Spans.of_buffer rfl)), Blanks.refl _, rfl, Nat.le_refl 1⟩
  have dotted : SpellsText [.rest (.identifier (Text.ofString "x"))] false
      (Text.ofString "...x") :=
    ⟨_, _, _, Blanks.refl _, .one (.rest (Cursor.Spans.of_buffer rfl)
      (.identifier (captureName_x (Cursor.Spans.of_buffer rfl) rfl)) fun _ => rfl),
      Blanks.refl _, rfl, Nat.le_refl 1⟩
  exact ⟨named, dotted, (parse_conforms.2.2.2 _ _ _ _ named dotted).1,
    (parse_conforms.2.1 _).mp ⟨_, rfl⟩⟩

end PatternDispatch.Grammar
