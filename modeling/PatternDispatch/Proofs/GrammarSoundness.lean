import PatternDispatch.Proofs.GrammarTokens
import PatternDispatch.Proofs.LiteralSpans

/-!
What the readers find, the grammar derives. Each reader is related to one part of the grammar: when
it finds nothing the cursor stays where it is, and when it finds a tree the text it has passed over
derives that tree.
-/

namespace PatternDispatch.Grammar

open Character Pattern.Parser

/-- A reader finds only what the stretches of text it passes over derive. -/
structure Sound (reader : Reader Pattern) (spells : Form → Cursor → Cursor → Prop) : Prop where
  nothing : ∀ {c d}, reader c = .ok (none, d) → d = c
  something : ∀ {c d tree}, reader c = .ok (some tree, d) →
    ∃ form, form.tree = tree ∧ spells form c d

/-- The stretches that derive a pattern. -/
abbrev PatternAt (form : Form) : Cursor → Cursor → Prop := Spells (.pattern form)

/-- The stretches that derive an item, with blanks behind it. -/
def ItemAt (place : Place) (form : Form) (c d : Cursor) : Prop :=
  ∃ e, Spells (.item place form) c e ∧ Blanks e d

/-! ## Alternatives -/

section Alternatives

variable {α : Type} {readers : List (Reader α)} {c d : Cursor}

theorem firstOf_append (readers others : List (Reader α)) (c : Cursor) :
    firstOf (readers ++ others) c =
      match firstOf readers c with
      | .ok (none, next) => firstOf others next
      | found => found := by
  induction readers generalizing c with
  | nil => rfl
  | cons reader readers ih =>
    simp only [List.cons_append, firstOf]
    split
    · next next nothing => exact ih next
    · next other =>
      split
      · next next nothing => exact absurd nothing (other next)
      · rfl

theorem firstOf_singleton (reader : Reader α) (c : Cursor) : firstOf [reader] c = reader c := by
  simp only [firstOf]
  split
  · next nothing => exact nothing.symm
  · rfl

/-- When no alternative is found, each of them was tried at the same place. -/
theorem firstOf_nothing
    (unmoved : ∀ reader ∈ readers, ∀ d, reader c = .ok (none, d) → d = c)
    (nothing : firstOf readers c = .ok (none, d)) :
    d = c ∧ ∀ reader ∈ readers, reader c = .ok (none, c) := by
  induction readers with
  | nil => cases nothing; exact ⟨rfl, by simp⟩
  | cons reader readers ih =>
    simp only [firstOf] at nothing
    split at nothing
    · next next absent =>
      obtain rfl := unmoved reader (by simp) next absent
      obtain ⟨same, others⟩ := ih (fun r member => unmoved r (by simp [member])) nothing
      refine ⟨same, fun r member => ?_⟩
      rcases List.mem_cons.mp member with rfl | later
      · exact absent
      · exact others r later
    · next other => exact absurd nothing (other d)

theorem firstOf_something {found : α}
    (unmoved : ∀ reader ∈ readers, ∀ d, reader c = .ok (none, d) → d = c)
    (something : firstOf readers c = .ok (some found, d)) :
    ∃ reader ∈ readers, reader c = .ok (some found, d) := by
  induction readers with
  | nil => cases something
  | cons reader readers ih =>
    simp only [firstOf] at something
    split at something
    · next next absent =>
      obtain rfl := unmoved reader (by simp) next absent
      obtain ⟨r, member, reads⟩ := ih (fun r member => unmoved r (by simp [member])) something
      exact ⟨r, by simp [member], reads⟩
    · exact ⟨reader, by simp, something⟩

end Alternatives

theorem Sound.firstOf {readers : List (Reader Pattern)} {spells : Form → Cursor → Cursor → Prop}
    (each : ∀ reader ∈ readers, Sound reader spells) : Sound (firstOf readers) spells where
  nothing found := (firstOf_nothing (fun r member _ => (each r member).nothing) found).1
  something found := by
    obtain ⟨r, member, reads⟩ :=
      firstOf_something (fun r member _ => (each r member).nothing) found
    exact (each r member).something reads

theorem Sound.pair {first second : Reader Pattern} {spells : Form → Cursor → Cursor → Prop}
    (soundFirst : Sound first spells) (soundSecond : Sound second spells) :
    Sound (Pattern.Parser.firstOf [first, second]) spells :=
  Sound.firstOf (List.forall_mem_cons.mpr ⟨soundFirst, List.forall_mem_singleton.mpr soundSecond⟩)

theorem Sound.weaken {reader : Reader Pattern} {spells others : Form → Cursor → Cursor → Prop}
    (sound : Sound reader spells) (weaker : ∀ {form c d}, spells form c d → others form c d) :
    Sound reader others where
  nothing := sound.nothing
  something found := by
    obtain ⟨form, same, derived⟩ := sound.something found
    exact ⟨form, same, weaker derived⟩

/-! ## Building and brackets -/

section Parts

variable {α : Type} {c d : Cursor}

theorem building_nothing {reader : Reader α} {make : α → Pattern}
    (nothing : building reader make c = .ok (none, d)) : reader c = .ok (none, d) := by
  unfold building at nothing
  split at nothing
  · cases nothing
  · next found next read =>
    cases found with
    | none => cases nothing; exact read
    | some => cases nothing

theorem building_something {reader : Reader α} {make : α → Pattern} {tree : Pattern}
    (found : building reader make c = .ok (some tree, d)) :
    ∃ a, reader c = .ok (some a, d) ∧ tree = make a := by
  unfold building at found
  split at found
  · cases found
  · next a next read =>
    cases a with
    | none => cases found
    | some a => cases found; exact ⟨a, read, rfl⟩

theorem lexeme_nothing {token : Token} (nothing : lexeme token c = .ok (none, d)) :
    d = c ∧ c.lex? token = none := by
  unfold lexeme at nothing
  split at nothing
  · next absent => cases nothing; exact ⟨rfl, absent⟩
  · cases nothing

theorem lexeme_something {token : Token} {value : Text}
    (found : lexeme token c = .ok (some value, d)) :
    ∃ l, c.lex? token = some (l, d) ∧ value = l.value := by
  unfold lexeme at found
  split at found
  · cases found
  · next l next lexed => cases found; exact ⟨l, lexed, rfl⟩

theorem bracketed_nothing {opening closing : Char} {inner : Cursor → Except ParseError (α × Cursor)}
    (nothing : bracketed opening closing inner c = .ok (none, d)) : d = c := by
  unfold bracketed at nothing
  split at nothing
  · cases nothing; rfl
  · split at nothing
    · cases nothing
    · split at nothing <;> cases nothing

theorem bracketed_something {opening closing : Char}
    {inner : Cursor → Except ParseError (α × Cursor)} {found : α}
    (read : bracketed opening closing inner c = .ok (some found, d)) :
    ∃ a b, c.Spans [opening.toNat] a ∧ inner a.skipBlanks = .ok (found, b) ∧
      b.skipBlanks.Spans [closing.toNat] d := by
  unfold bracketed at read
  split at read
  · cases read
  · next a opens =>
    split at read
    · cases read
    · next b inside =>
      split at read
      · cases read
      · next closes =>
        cases read
        exact ⟨a, b, Cursor.acceptChar?_iff.mp opens, inside, Cursor.acceptChar?_iff.mp closes⟩

end Parts

/-! ## Lists of items -/

theorem Form.isRest_tree (form : Form) : form.tree.isRest = form.isRest := by
  cases form <;> rfl

/-- Items without any are read from no text. -/
theorem items_nil {c d : Cursor} {place : Place} {trailing : Bool}
    (empty : Spells (.items place [] trailing) c d) : trailing = false ∧ d = c := by
  cases empty
  exact ⟨rfl, rfl⟩

theorem commaSeparated_sound {item : Reader Pattern} {place : Place}
    (sound : Sound item (ItemAt place)) {limit : Nat} {hasRest : Bool} {c d : Cursor}
    {found : List Pattern} (read : commaSeparated item limit hasRest c = .ok (found, d)) :
    ∃ forms trailing e, Form.trees forms = found ∧ Spells (.items place forms trailing) c e ∧
      Blanks e d ∧ forms.countP Form.isRest + hasRest.toNat ≤ 1 := by
  have small (b : Bool) : b.toNat ≤ 1 := by cases b <;> decide
  induction limit generalizing hasRest c found with
  | zero =>
    cases read
    exact ⟨[], false, _, rfl, .none, Blanks.refl _, by simpa using small hasRest⟩
  | succ limit ih =>
    simp only [commaSeparated] at read
    split at read
    · cases read
    · next next nothing =>
      cases read
      obtain rfl := sound.nothing nothing
      exact ⟨[], false, _, rfl, .none, Blanks.refl _, by simpa using small hasRest⟩
    · next first next something =>
      obtain ⟨form, rfl, e, derived, behindItem⟩ := sound.something something
      have skipped := next.skipBlanks_spec.1
      split at read
      · cases read
      · next single =>
        have oneRest : form.isRest.toNat + hasRest.toNat ≤ 1 := by
          rw [Form.isRest_tree] at single
          revert single
          cases form.isRest <;> cases hasRest <;> decide
        split at read
        · cases read
          refine ⟨[form], false, e, rfl, .one derived, behindItem.trans skipped, ?_⟩
          cases isRest : form.isRest <;> simp_all
        · next behind accepted =>
          have comma := Cursor.acceptChar?_iff.mp accepted
          split at read
          · cases read
          · next others last later =>
            cases read
            obtain ⟨forms, trailing, f, rfl, derivedOthers, behindOthers, restsOthers⟩ := ih later
            have gap := behindItem.trans skipped
            have counted : (form :: forms).countP Form.isRest + hasRest.toNat ≤ 1 := by
              rw [List.countP_cons]
              rw [Form.isRest_tree] at restsOthers
              cases isRest : form.isRest <;> cases hasRest <;> simp_all
            cases forms with
            | nil =>
              obtain ⟨rfl, rfl⟩ := items_nil derivedOthers
              exact ⟨[form], true, behind, rfl, .trailing derived gap comma,
                behind.skipBlanks_spec.1.trans behindOthers, counted⟩
            | cons g gs =>
              exact ⟨form :: g :: gs, trailing, f, rfl,
                .more derived gap comma behind.skipBlanks_spec.1 derivedOthers, behindOthers,
                counted⟩

/-- A bracketed list of items is enclosed items. -/
theorem bracketed_items_sound {item : Reader Pattern} {place : Place}
    (sound : Sound item (ItemAt place)) {opening closing : Char} {c d : Cursor}
    {found : List Pattern}
    (read : bracketed opening closing (items item) c = .ok (some found, d)) :
    ∃ forms trailing, Form.trees forms = found ∧
      Spells (.enclosed opening closing place forms trailing) c d := by
  obtain ⟨a, b, opens, inside, closes⟩ := bracketed_something read
  obtain ⟨forms, trailing, e, same, derived, behind, rests⟩ := commaSeparated_sound sound inside
  exact ⟨forms, trailing, same, .enclosed opens a.skipBlanks_spec.1 derived
    (behind.trans b.skipBlanks_spec.1) closes (by simpa [AtMostOneRest] using rests)⟩

/-! ## The readers of each construct -/

section Readers

variable {pattern : Reader Pattern} {c d : Cursor}

/-- The stretches that derive a rest, in an object only one that holds a name or nothing. -/
def RestAt (form : Form) (c d : Cursor) : Prop :=
  ∀ place, (place = .fields → form.holdsName = true) → Spells (.item place form) c d

theorem rest_sound (sound : Sound pattern PatternAt) : Sound (rest pattern) RestAt where
  nothing nothing := by
    unfold rest at nothing
    split at nothing
    · cases nothing
    · split at nothing
      · cases nothing; rfl
      · split at nothing <;> cases nothing
  something something := by
    unfold rest at something
    split at something
    · next l next lexed =>
      cases something
      obtain ⟨n, a, rfl, name, dots⟩ := lex?_postfixRest_iff.mp lexed
      exact ⟨.rest (.identifier n), rfl, fun _ _ => .namedRest name dots⟩
    · split at something
      · cases something
      · next next accepted =>
        have dots := Cursor.accept?_iff.mp accepted
        split at something
        · cases something
        · next inner last read =>
          cases something
          cases inner with
          | none =>
            obtain rfl := sound.nothing read
            exact ⟨.dots, rfl, fun _ _ => .dots dots⟩
          | some tree =>
            obtain ⟨form, rfl, derived⟩ := sound.something read
            exact ⟨.rest form, rfl, fun _ fits => .rest dots derived fits⟩

theorem sequenceItem_sound (sound : Sound pattern PatternAt) :
    Sound (firstOf [rest pattern, pattern]) (ItemAt .sequence) :=
  Sound.pair
    ((rest_sound sound).weaken fun {_ _ d} derived =>
      ⟨d, derived .sequence (fun wrong => nomatch wrong), Blanks.refl d⟩)
    (sound.weaken fun {_ _ d} derived => ⟨d, .element derived, Blanks.refl d⟩)

theorem key_unmoved : ∀ reader ∈ [Cursor.string, lexeme .key], ∀ d,
    reader c = .ok (none, d) → d = c :=
  List.forall_mem_cons.mpr ⟨fun _ => Cursor.string_none,
    List.forall_mem_singleton.mpr fun _ nothing => (lexeme_nothing nothing).1⟩

theorem key_something {name : Text} (found : key c = .ok (some name, d)) : Key name c d := by
  obtain ⟨reader, member, read⟩ := firstOf_something key_unmoved found
  rcases List.mem_cons.mp member with rfl | later
  · exact .inl read
  · obtain rfl := List.mem_singleton.mp later
    obtain ⟨l, lexed, rfl⟩ := lexeme_something read
    obtain ⟨n, rfl, named⟩ := lex?_key_iff.mp lexed
    exact .inr named

theorem Form.holdsName_of_tree {form : Form} {inner : Pattern} (same : form.tree = .rest inner)
    (fits : inner = .wildcard ∨ ∃ n, inner = .identifier n) : form.holdsName = true := by
  cases form with
  | dots => rfl
  | rest held =>
    obtain rfl := Pattern.rest.inj same
    cases held with
    | wildcard | identifier => rfl
    | _ => simp [Form.tree] at fits
  | _ => cases same

theorem fieldRest_sound (sound : Sound pattern PatternAt) :
    Sound (fieldRest pattern) (ItemAt .fields) where
  nothing nothing := by
    unfold fieldRest at nothing
    split at nothing
    · cases nothing
    · cases nothing
    · cases nothing
    · exact (rest_sound sound).nothing nothing
  something something := by
    unfold fieldRest at something
    split at something
    · next name next read =>
      cases something
      obtain ⟨form, same, derived⟩ := (rest_sound sound).something read
      have fits := Form.holdsName_of_tree same (.inr ⟨name, rfl⟩)
      exact ⟨form, same, _, derived .fields fun _ => fits, Blanks.refl _⟩
    · next next read =>
      cases something
      obtain ⟨form, same, derived⟩ := (rest_sound sound).something read
      have fits := Form.holdsName_of_tree same (.inl rfl)
      exact ⟨form, same, _, derived .fields fun _ => fits, Blanks.refl _⟩
    · cases something
    · next other => exact absurd something (other _ _)

theorem keyed_sound (sound : Sound pattern PatternAt) : Sound (keyed pattern) (ItemAt .fields) where
  nothing nothing := by
    unfold keyed at nothing
    split at nothing
    · cases nothing
    · next absent => cases nothing; exact (firstOf_nothing key_unmoved absent).1
    · split at nothing
      · cases nothing
      · split at nothing <;> cases nothing
  something something := by
    unfold keyed at something
    split at something
    · cases something
    · cases something
    · next name next read =>
      have named := key_something read
      split at something
      · cases something
        exact ⟨.key name, rfl, next, .key named, next.skipBlanks_spec.1⟩
      · next behind accepted =>
        have colon := Cursor.acceptChar?_iff.mp accepted
        split at something
        · cases something
        · cases something
        · next inner last value =>
          cases something
          obtain ⟨form, rfl, derived⟩ := sound.something value
          exact ⟨.keyValue name form, rfl, _, .keyValue named next.skipBlanks_spec.1 colon
            behind.skipBlanks_spec.1 derived, Blanks.refl _⟩

theorem field_sound (sound : Sound pattern PatternAt) :
    Sound (firstOf [fieldRest pattern, keyed pattern]) (ItemAt .fields) :=
  Sound.pair (fieldRest_sound sound) (keyed_sound sound)

theorem array_sound (sound : Sound pattern PatternAt) :
    Sound (array pattern) fun form c d => PatternAt form c d ∧ form.isStructure = true where
  nothing nothing := bracketed_nothing (building_nothing nothing)
  something something := by
    obtain ⟨found, read, rfl⟩ := building_something something
    obtain ⟨forms, trailing, rfl, derived⟩ := bracketed_items_sound (sequenceItem_sound sound) read
    exact ⟨.array forms trailing, rfl, .array derived, rfl⟩

theorem object_sound (sound : Sound pattern PatternAt) :
    Sound (object pattern) fun form c d => PatternAt form c d ∧ form.isStructure = true where
  nothing nothing := bracketed_nothing (building_nothing nothing)
  something something := by
    obtain ⟨found, read, rfl⟩ := building_something something
    obtain ⟨forms, trailing, rfl, derived⟩ := bracketed_items_sound (field_sound sound) read
    exact ⟨.object forms trailing, rfl, .object derived, rfl⟩

/-- What can stand behind a class name does not move where it is not found. The name alone is always
found. -/
theorem components_unmoved (name : Text) : ∀ reader ∈
    [building (bracketed '\x7b' '\x7d' (fields pattern)) (.tagObject name),
      building (bracketed '(' ')' (sequenceItems pattern)) (.tagArray name),
      fun c => .ok (some (.tag name), c)],
    ∀ d, reader c = .ok (none, d) → d = c :=
  List.forall_mem_cons.mpr ⟨fun _ nothing => bracketed_nothing (building_nothing nothing),
    List.forall_mem_cons.mpr ⟨fun _ nothing => bracketed_nothing (building_nothing nothing),
      List.forall_mem_singleton.mpr nofun⟩⟩

theorem classPattern_nothing (nothing : classPattern pattern c = .ok (none, d)) : d = c := by
  unfold classPattern at nothing
  split at nothing
  · cases nothing; rfl
  · next name next lexed =>
    -- The last alternative, the name alone, is always found.
    simp only [firstOf] at nothing
    split at nothing
    · split at nothing
      · cases nothing
      · next other => exact absurd nothing (other d)
    · next other => exact absurd nothing (other d)

theorem classPattern_sound (sound : Sound pattern PatternAt) :
    Sound (classPattern pattern) fun form c d => PatternAt form c d ∧ form.isStructure = true where
  nothing := classPattern_nothing
  something something := by
    unfold classPattern at something
    split at something
    · cases something
    · next l next lexed =>
      obtain ⟨n, rfl, named⟩ := lex?_className_iff.mp lexed
      obtain ⟨reader, member, read⟩ := firstOf_something (components_unmoved n) something
      rcases List.mem_cons.mp member with rfl | later
      · obtain ⟨found, inside, rfl⟩ := building_something read
        obtain ⟨forms, trailing, rfl, derived⟩ := bracketed_items_sound (field_sound sound) inside
        exact ⟨.tagObject n forms trailing, rfl, .tagObject named derived, rfl⟩
      · rcases List.mem_cons.mp later with rfl | last
        · obtain ⟨found, inside, rfl⟩ := building_something read
          obtain ⟨forms, trailing, rfl, derived⟩ :=
            bracketed_items_sound (sequenceItem_sound sound) inside
          exact ⟨.tagArray n forms trailing, rfl, .tagArray named derived, rfl⟩
        · obtain rfl := List.mem_singleton.mp last
          cases read
          exact ⟨.tag n, rfl, .tag named, rfl⟩

theorem extractor_sound (sound : Sound pattern PatternAt) : Sound (extractor pattern) PatternAt where
  nothing nothing := by
    unfold extractor at nothing
    split at nothing
    · cases nothing; rfl
    · split at nothing <;> cases nothing
  something something := by
    unfold extractor at something
    split at something
    · cases something
    · next l next lexed =>
      obtain ⟨n, a, rfl, dollar, named⟩ := lex?_extractorName_iff.mp lexed
      split at something
      · cases something
      · next inner last read =>
        cases something
        obtain ⟨b, e, opens, inside, closes⟩ := bracketed_something read
        obtain ⟨form, rfl, derived⟩ := sound.something inside
        exact ⟨.extractorOf n form, rfl, .extractorOf dollar named opens b.skipBlanks_spec.1
          derived e.skipBlanks_spec.1 closes⟩
      · next inner last absent read =>
        cases something
        cases inner with
        | none =>
          obtain rfl := bracketed_nothing read
          exact ⟨.extractor n, rfl, .extractor dollar named⟩
        | some held =>
          cases held with
          | some tree => exact absurd rfl (absent tree)
          | none =>
            obtain ⟨b, e, opens, inside, closes⟩ := bracketed_something read
            obtain rfl := sound.nothing inside
            exact ⟨.extractorEmpty n, rfl, .extractorEmpty dollar named opens
              (b.skipBlanks_spec.1.trans (Cursor.skipBlanks_spec _).1) closes⟩

theorem identifierOrBinder_nothing (nothing : identifierOrBinder pattern c = .ok (none, d)) :
    d = c := by
  unfold identifierOrBinder at nothing
  split at nothing
  · cases nothing; rfl
  · split at nothing
    · cases nothing
    · split at nothing <;> cases nothing

/-- A name is a capture name where no keyword stands as a whole word. -/
theorem identifierOrBinder_something (sound : Sound pattern PatternAt) {tree : Pattern}
    (free : ∀ w ∈ Token.keywords, ∀ e, ¬Word w c e)
    (something : identifierOrBinder pattern c = .ok (some tree, d)) :
    ∃ form, form.tree = tree ∧ PatternAt form c d := by
  unfold identifierOrBinder at something
  split at something
  · cases something
  · next l next lexed =>
    obtain ⟨n, rfl, named⟩ := lex?_identifier_iff.mp lexed
    split at something
    · cases something
      exact ⟨.identifier n, rfl, .identifier ⟨named, free⟩⟩
    · next behind accepted =>
      have bound := Cursor.acceptChar?_iff.mp accepted
      split at something
      · cases something
      · cases something
      · next inner last read =>
        cases something
        have structures : Sound (firstOf [classPattern pattern, array pattern, object pattern])
            fun form c d => PatternAt form c d ∧ form.isStructure = true :=
          Sound.firstOf (List.forall_mem_cons.mpr ⟨classPattern_sound sound,
            List.forall_mem_cons.mpr ⟨array_sound sound,
              List.forall_mem_singleton.mpr (object_sound sound)⟩⟩)
        obtain ⟨form, rfl, derived, fits⟩ := structures.something read
        exact ⟨.binder n form, rfl, .binder ⟨named, free⟩ bound fits derived⟩

theorem word_sound {token : Token} {make : Text → Pattern}
    (found : ∀ {l c d}, c.lex? token = some (l, d) →
      ∃ form, form.tree = make l.value ∧ PatternAt form c d) :
    Sound (building (lexeme token) make) PatternAt where
  nothing nothing := (lexeme_nothing (building_nothing nothing)).1
  something something := by
    obtain ⟨value, read, rfl⟩ := building_something something
    obtain ⟨l, lexed, rfl⟩ := lexeme_something read
    exact found lexed

theorem wildcard_sound : Sound wildcard PatternAt where
  nothing nothing := by
    unfold wildcard at nothing
    split at nothing <;> cases nothing
    rfl
  something something := by
    unfold wildcard at something
    split at something
    · cases something
    · next accepted =>
      cases something
      exact ⟨.wildcard, rfl, .wildcard (Cursor.acceptChar?_iff.mp accepted)⟩

theorem null_sound : Sound (building (lexeme .nullWord) fun _ => .null) PatternAt :=
  word_sound fun lexed => ⟨.null, rfl, .null (lex?_null_iff.mp lexed).2⟩

theorem undefined_sound : Sound (building (lexeme .undefinedWord) fun _ => .undefined) PatternAt :=
  word_sound fun lexed => ⟨.undefined, rfl, .undefined (lex?_undefined_iff.mp lexed).2⟩

theorem boolean_sound : Sound (building (lexeme .booleanWord)
    fun word => .boolean (word = Text.ofString "true")) PatternAt :=
  word_sound fun lexed => by
    obtain ⟨value, rfl, word⟩ := lex?_boolean_iff.mp lexed
    refine ⟨.boolean value, ?_, .boolean value word⟩
    cases value <;> rfl

theorem number_sound : Sound (building Cursor.number .number) PatternAt where
  nothing nothing := Cursor.number_none (building_nothing nothing)
  something something := by
    obtain ⟨value, read, rfl⟩ := building_something something
    obtain ⟨token, -, span⟩ := Cursor.number_some read
    exact ⟨.number token value, rfl, .number read span⟩

theorem string_sound : Sound (building Cursor.string .string) PatternAt where
  nothing nothing := Cursor.string_none (building_nothing nothing)
  something something := by
    obtain ⟨value, read, rfl⟩ := building_something something
    exact ⟨.string value, rfl, .string read⟩

/-- All alternatives of a pattern but the last. -/
def decisive (pattern : Reader Pattern) : List (Reader Pattern) :=
  [wildcard,
    building (lexeme .nullWord) fun _ => .null,
    building (lexeme .undefinedWord) fun _ => .undefined,
    building (lexeme .booleanWord) fun word => .boolean (word = Text.ofString "true"),
    building Cursor.number .number,
    building Cursor.string .string,
    classPattern pattern,
    extractor pattern,
    array pattern,
    object pattern]

theorem decisive_sound (sound : Sound pattern PatternAt) :
    ∀ reader ∈ decisive pattern, Sound reader PatternAt := by
  simp only [decisive, List.forall_mem_cons, List.not_mem_nil, false_implies, implies_true,
    and_true]
  exact ⟨wildcard_sound, null_sound, undefined_sound, boolean_sound, number_sound, string_sound,
    (classPattern_sound sound).weaken And.left, extractor_sound sound,
    (array_sound sound).weaken And.left, (object_sound sound).weaken And.left⟩

theorem patternStep_eq (pattern : Reader Pattern) (c : Cursor) :
    patternStep pattern c =
      match firstOf (decisive pattern) c with
      | .ok (none, next) => identifierOrBinder pattern next
      | found => found := by
  have split : patternStep pattern = firstOf (decisive pattern ++ [identifierOrBinder pattern]) := rfl
  rw [split, firstOf_append]
  simp only [firstOf_singleton]
  cases firstOf (decisive pattern) c with
  | error e => rfl
  | ok pair =>
    obtain ⟨found, next⟩ := pair
    cases found <;> rfl

/-- Where no decisive alternative is found, no keyword stands as a whole word. -/
theorem no_keyword_of_decisive {c : Cursor}
    (absent : ∀ reader ∈ decisive pattern, reader c = .ok (none, c)) :
    ∀ w ∈ Token.keywords, ∀ d, ¬Word w c d := by
  have unlexed (token : Token) (make : Text → Pattern)
      (member : building (lexeme token) make ∈ decisive pattern) : c.lex? token = none :=
    (lexeme_nothing (building_nothing (absent _ member))).2
  have noNull := unlexed .nullWord (fun _ => .null) (by simp [decisive])
  have noUndefined := unlexed .undefinedWord (fun _ => .undefined) (by simp [decisive])
  have noBoolean := unlexed .booleanWord (fun word => .boolean (word = Text.ofString "true"))
    (by simp [decisive])
  simp only [Token.keywords, List.map_cons, List.map_nil, List.forall_mem_cons, List.not_mem_nil,
    false_implies, implies_true, and_true]
  refine ⟨fun d word => ?_, fun d word => ?_, fun d word => ?_, fun d word => ?_⟩
  · rw [lex?_null_iff.mpr ⟨rfl, word⟩] at noNull
    cases noNull
  · rw [lex?_undefined_iff.mpr ⟨rfl, word⟩] at noUndefined
    cases noUndefined
  · rw [lex?_boolean_iff.mpr ⟨true, rfl, word⟩] at noBoolean
    cases noBoolean
  · rw [lex?_boolean_iff.mpr ⟨false, rfl, word⟩] at noBoolean
    cases noBoolean

theorem patternStep_sound (sound : Sound pattern PatternAt) :
    Sound (patternStep pattern) PatternAt where
  nothing nothing := by
    rw [patternStep_eq] at nothing
    split at nothing
    · next absent =>
      obtain rfl := (Sound.firstOf (decisive_sound sound)).nothing absent
      exact identifierOrBinder_nothing nothing
    · next other => exact absurd nothing (other _)
  something something := by
    rw [patternStep_eq] at something
    split at something
    · next absent =>
      obtain ⟨rfl, each⟩ := firstOf_nothing
        (fun r member _ => (decisive_sound sound r member).nothing) absent
      exact identifierOrBinder_something sound (no_keyword_of_decisive each) something
    · exact (Sound.firstOf (decisive_sound sound)).something something

end Readers

theorem pattern_sound (depth : Nat) : Sound (pattern depth) PatternAt := by
  induction depth with
  | zero => exact ⟨fun nothing => by cases nothing; rfl, fun something => nomatch something⟩
  | succ depth ih => exact patternStep_sound ih

/-- What is read from a text, the text derives. -/
theorem derives_of_parse {text : Text} {tree : Pattern} (read : parse text = .ok tree) :
    Derives text tree := by
  unfold parse at read
  dsimp only at read
  split at read
  · cases read
  · next found next inside =>
    split at read
    · next ended =>
      cases read
      obtain ⟨forms, trailing, e, rfl, derived, behind, rests⟩ :=
        commaSeparated_sound (sequenceItem_sound (pattern_sound text.length)) inside
      refine ⟨forms, trailing, ⟨_, e, _, (Cursor.start text).skipBlanks_spec.1, derived,
        behind.trans next.skipBlanks_spec.1, ?_, by simpa [AtMostOneRest] using rests⟩, rfl⟩
      simpa [Cursor.atEnd] using ended
    · cases read

end PatternDispatch.Grammar
