import PatternDispatch.Proofs.ForwardRecursion
import PatternDispatch.Proofs.NestingDepth
import PatternDispatch.Proofs.OrderedChoice
import PatternDispatch.Traced

/-!
Reading goes forward and ends. An alternative asks for nested patterns only behind the place where it
begins, since it has taken a character of its own by then, and a turn of a list asks for the next one
behind its comma. So the depth limit of the readers is never met, and what they compute is what they
would compute without one.
-/

namespace PatternDispatch.Pattern.Parser

open Cursor Grammar

/-! ## Turns of a list -/

/-- One turn of the loop over the items of a list, with `again` for the turns behind it. A state is
whether there was a rest, and the place. -/
def itemTurn (item : Reader Pattern)
    (again : Bool × Cursor → Except ParseError (List Pattern × Cursor)) :
    Bool × Cursor → Except ParseError (List Pattern × Cursor)
  | (hasRest, c) =>
    match item c with
    | .error e => .error e
    | .ok (none, next) => .ok ([], next)
    | .ok (some first, next) =>
      if hasRest && first.isRest then
        .error (.malformed .multipleRests (next.rewindTo c.buffer))
      else
        match next.skipBlanks.acceptChar? ',' with
        | none => .ok ([first], next.skipBlanks)
        | some behind =>
          match again (hasRest || first.isRest, behind.skipBlanks) with
          | .error e => .error e
          | .ok (others, last) => .ok (first :: others, last)

/-- The items of a list with a limit on their number, from a state on. -/
def itemsUpTo (item : Reader Pattern) (limit : Nat) (s : Bool × Cursor) :
    Except ParseError (List Pattern × Cursor) := commaSeparated item limit s.1 s.2

section Nested

variable {α : Type} {p q : Reader Pattern} {c : Cursor}

/-- The next turn begins behind an item and a comma. -/
theorem nextTurn_passes {item : Reader Pattern} (progresses : Progresses item) {next behind : Cursor}
    {first : Pattern} (read : item c = .ok (some first, next))
    (comma : next.skipBlanks.acceptChar? ',' = some behind) : c.Passes behind.skipBlanks :=
  (progresses.something read).trans_reaches ((next.skipBlanks_spec.1.reaches.trans
    (acceptChar?_passes comma).reaches).trans behind.skipBlanks_spec.1.reaches)

theorem itemTurn_congr {item other : Reader Pattern} (progresses : Progresses other)
    (sameItem : item c = other c)
    {again further : Bool × Cursor → Except ParseError (List Pattern × Cursor)}
    (sameAgain : ∀ s, c.Passes s.2 → again s = further s) (hasRest : Bool) :
    itemTurn item again (hasRest, c) = itemTurn other further (hasRest, c) := by
  rw [itemTurn, itemTurn, sameItem]
  cases read : other c with
  | error e => rfl
  | ok answer =>
    obtain ⟨found, next⟩ := answer
    cases found with
    | none => rfl
    | some first =>
      dsimp only
      cases comma : next.skipBlanks.acceptChar? ',' with
      | none => rfl
      | some behind =>
        have later := sameAgain (hasRest || first.isRest, behind.skipBlanks)
          (nextTurn_passes progresses read comma)
        simp only [later]

theorem commaSeparated_congr {item other : Reader Pattern} (progresses : Progresses other)
    (same : ∀ d, c.Reaches d → item d = other d) (limit : Nat) (hasRest : Bool) :
    commaSeparated item limit hasRest c = commaSeparated other limit hasRest c := by
  induction limit generalizing hasRest c with
  | zero => rfl
  | succ limit ih =>
    change itemTurn item (itemsUpTo item limit) (hasRest, c) =
      itemTurn other (itemsUpTo other limit) (hasRest, c)
    refine itemTurn_congr progresses (same c (Reaches.refl c)) (fun s passes => ?_) hasRest
    exact ih (fun d reaches => same d (passes.trans_reaches reaches).reaches) s.1

theorem bracketed_congr {inner other : Cursor → Except ParseError (α × Cursor)}
    (opening closing : Char) (same : ∀ d, c.Passes d → inner d = other d) :
    bracketed opening closing inner c = bracketed opening closing other c := by
  rw [bracketed, bracketed]
  cases opens : c.acceptChar? opening with
  | none => rfl
  | some opened =>
    have passes := (acceptChar?_passes opens).trans_reaches opened.skipBlanks_spec.1.reaches
    simp only [same _ passes]

theorem building_congr {reader other : Reader α} (make : α → Pattern)
    (same : reader c = other c) : building reader make c = building other make c := by
  rw [building, building, same]

/-! ## Asking behind a place only -/

section Behind

variable (same : ∀ d, c.Passes d → p d = q d)

include same

theorem rest_congr : rest p c = rest q c := by
  rw [rest, rest]
  cases c.lex? .postfixRest with
  | some _ => rfl
  | none =>
    cases accepted : c.accept? Token.dots with
    | none => rfl
    | some next =>
      have passes : c.Passes next := ⟨_, by decide, accept?_iff.mp accepted⟩
      simp only [same next passes]

theorem fieldRest_congr : fieldRest p c = fieldRest q c := by
  rw [fieldRest, fieldRest, rest_congr same]

theorem keyed_congr : keyed p c = keyed q c := by
  rw [keyed, keyed]
  cases read : key c with
  | error e => rfl
  | ok answer =>
    obtain ⟨found, next⟩ := answer
    cases found with
    | none => rfl
    | some name =>
      dsimp only
      cases colon : next.skipBlanks.acceptChar? ':' with
      | none => rfl
      | some behind =>
        have passes : c.Passes behind.skipBlanks :=
          (key_progresses.something read).trans_reaches ((next.skipBlanks_spec.1.reaches.trans
            (acceptChar?_passes colon).reaches).trans behind.skipBlanks_spec.1.reaches)
        simp only [same _ passes]

end Behind

/-- An item asks for patterns at its place or behind it. -/
theorem itemReader_congr (sound : Sound q PatternAt) (place : Place)
    (same : ∀ d, c.Reaches d → p d = q d) : itemReader place p c = itemReader place q c := by
  have behind : ∀ d, c.Passes d → p d = q d := fun d passes => same d passes.reaches
  cases place with
  | sequence =>
    refine firstOf_congr ?_ ?_
    · rw [List.map_cons, List.map_cons, rest_congr behind, same c (Reaches.refl c)]
      rfl
    · exact List.forall_mem_cons.mpr ⟨fun _ => (rest_sound sound).nothing,
        List.forall_mem_singleton.mpr fun _ => sound.nothing⟩
  | fields =>
    refine firstOf_congr ?_ ?_
    · rw [List.map_cons, List.map_cons, fieldRest_congr behind, keyed_congr behind]
      rfl
    · exact List.forall_mem_cons.mpr ⟨fun _ => (fieldRest_sound sound).nothing,
        List.forall_mem_singleton.mpr fun _ => (keyed_sound sound).nothing⟩

theorem items_congr (sound : Sound q PatternAt) (place : Place)
    (same : ∀ d, c.Reaches d → p d = q d) :
    items (itemReader place p) c = items (itemReader place q) c :=
  commaSeparated_congr (itemReader_progresses place sound)
    (fun _ reaches => itemReader_congr sound place fun e further => same e (reaches.trans further))
    _ _

section Behind

variable (sound : Sound q PatternAt) (same : ∀ d, c.Passes d → p d = q d)

include sound same

theorem series_congr (opening closing : Char) (place : Place) :
    bracketed opening closing (items (itemReader place p)) c =
      bracketed opening closing (items (itemReader place q)) c :=
  bracketed_congr opening closing fun _ passes =>
    items_congr sound place fun e reaches => same e (passes.trans_reaches reaches)

theorem array_congr : array p c = array q c :=
  building_congr _ (series_congr sound same '[' ']' .sequence)

theorem object_congr : object p c = object q c :=
  building_congr _ (series_congr sound same '\x7b' '\x7d' .fields)

theorem classPattern_congr : classPattern p c = classPattern q c := by
  rw [classPattern, classPattern]
  cases named : c.lex? .className with
  | none => rfl
  | some found =>
    obtain ⟨name, next⟩ := found
    have behind : ∀ d, next.Passes d → p d = q d := fun d passes =>
      same d ((lex?_passes named).trans_reaches passes.reaches)
    have keyed := building_congr (.tagObject name.value)
      (series_congr sound behind '\x7b' '\x7d' .fields)
    have positional := building_congr (.tagArray name.value)
      (series_congr sound behind '(' ')' .sequence)
    exact firstOf_congr (congrArg₂ List.cons keyed (congrArg₂ List.cons positional rfl))
      (components_unmoved name.value)

omit sound in
theorem extractor_congr : extractor p c = extractor q c := by
  rw [extractor, extractor]
  cases named : c.lex? .extractorName with
  | none => rfl
  | some found =>
    have inner := bracketed_congr '(' ')' fun d passes =>
      same d ((lex?_passes named).trans_reaches passes.reaches)
    simp only [inner]

theorem identifierOrBinder_congr : identifierOrBinder p c = identifierOrBinder q c := by
  rw [identifierOrBinder, identifierOrBinder]
  cases named : c.lex? .identifier with
  | none => rfl
  | some found =>
    obtain ⟨name, next⟩ := found
    dsimp only
    cases marked : next.acceptChar? '@' with
    | none => rfl
    | some bound =>
      have behind : ∀ d, bound.Passes d → p d = q d := fun d passes =>
        same d ((lex?_passes named).trans_reaches
          ((acceptChar?_passes marked).reaches.trans passes.reaches))
      have structured : firstOf (structures p) bound = firstOf (structures q) bound := by
        refine firstOf_congr ?_ fun reader member _ =>
          (structures_progress sound reader member).nothing
        simp only [structures, List.map_cons, List.map_nil, classPattern_congr sound behind,
          array_congr sound behind, object_congr sound behind]
      simp only [structured]

/-- A pattern asks for nested patterns behind its place only. -/
theorem patternStep_congr : patternStep p c = patternStep q c := by
  rw [patternStep_eq_firstOf, patternStep_eq_firstOf]
  refine firstOf_congr ?_ fun reader member _ => (alternatives_progress sound reader member).nothing
  simp only [alternatives, decisive, List.cons_append, List.nil_append, List.map_cons,
    List.map_nil, classPattern_congr sound same, extractor_congr same, array_congr sound same,
    object_congr sound same, identifierOrBinder_congr sound same]

end Behind

end Nested

/-! ## Recursions of the readers -/

theorem pattern_limited : Limited id patternStep pattern where
  forward limit _ _ same := patternStep_congr (pattern_sound limit) same
  exhausted _ c empty := patternStep_silent (by rw [show c.buffer = [] from empty]; rfl)

/-- The reader of patterns of any depth is what its step computes without a limit on the depth. -/
theorem anyPattern_recursion : ForwardRecursion id patternStep anyPattern := pattern_limited.result

theorem pattern_eq_anyPattern {depth : Nat} {c : Cursor} (within : c.buffer.length ≤ depth) :
    pattern depth c = anyPattern c := pattern_limited.enough within (Nat.le_refl _)

/-- No item begins at the end of the text. -/
theorem itemReader_of_end {p : Reader Pattern} (nested : IsNested p) (place : Place) {c : Cursor}
    (empty : c.buffer = []) : itemReader place p c = .ok (none, c) := by
  have ended : Token.startsWith isOpening c.buffer = false := by rw [empty]; rfl
  cases nested with
  | upTo depth => exact itemReader_silent place depth ended
  | any =>
    -- Where nothing is left, any depth is as good as none.
    rw [← itemReader_silent place 0 ended]
    refine itemReader_congr (pattern_sound 0) place fun d reaches => ?_
    refine (pattern_eq_anyPattern ?_).symm
    rw [← List.length_nil (α := CodePoint), ← empty]
    exact reaches.length_le

theorem items_limited {p : Reader Pattern} (nested : IsNested p) (place : Place) :
    Limited Prod.snd (itemTurn (itemReader place p)) (itemsUpTo (itemReader place p)) where
  forward limit f s same :=
    itemTurn_congr (itemReader_progresses place nested.sound) rfl same s.1
  exhausted f s empty := by
    rw [itemTurn, itemReader_of_end nested place empty]
    rfl

/-! ## Whole texts -/

/-- Reads a whole text as an argument list, with a given reader of patterns. -/
def parseWith (p : Reader Pattern) (text : Text) : Except ParseError Pattern :=
  match items (itemReader .sequence p) (Cursor.start text).skipBlanks with
  | .error e => .error e
  | .ok (found, next) =>
    if next.skipBlanks.atEnd then .ok (.argumentList found)
    else .error (.malformed .unexpectedCharacter next.skipBlanks)

theorem parse_eq_parseWith (text : Text) :
    parse text = parseWith (pattern text.length) text := rfl

theorem parseWith_congr {p q : Reader Pattern} {text : Text} (sound : Sound q PatternAt)
    (same : ∀ c : Cursor, c.buffer.length ≤ text.length → p c = q c) :
    parseWith p text = parseWith q text := by
  have found : items (itemReader .sequence p) (Cursor.start text).skipBlanks =
      items (itemReader .sequence q) (Cursor.start text).skipBlanks :=
    items_congr sound .sequence fun d reaches =>
      same d (((Cursor.start text).skipBlanks_spec.1.reaches.trans reaches).length_le)
  rw [parseWith, parseWith, found]

/-- A text is read as without a limit on the depth. -/
theorem parse_unlimited (text : Text) : parse text = parseWith anyPattern text := by
  rw [parse_eq_parseWith]
  exact parseWith_congr IsNested.any.sound fun _ within => pattern_eq_anyPattern within

/-- A text is read by as many rounds of the step as it has characters and one more. -/
theorem parse_rounds {text : Text} {depth : Nat} (deep : text.length < depth)
    (base : Reader Pattern) : parse text = parseWith (patternStep^[depth] base) text := by
  rw [parse_unlimited]
  refine (parseWith_congr IsNested.any.sound fun c within => ?_).symm
  exact anyPattern_recursion.rounds base depth c (Nat.lt_of_le_of_lt within deep)

/-- Ordered choice is safe, and reading goes forward. An alternative that finds nothing leaves the
cursor as it was, and one that finds something has taken a front of the buffer and left the rest; so
whatever is tried behind alternatives is tried at their place. Reading a pattern asks for nested ones
further on only, where the buffer is shorter, as a turn of a list or of a string body asks for the
next one; each of them computes what it does without a limit on its rounds, and is alone in that. So
reading a text ends whatever stands below one round more than the text has characters, and its tree
has no more levels than the text has characters. -/
theorem reading_goes_forward :
    (∀ {α : Type} (reader : Reader α), IsAlternative reader → ∀ c,
        (∀ d, reader c = .ok (none, d) → d = c) ∧
          ∀ a d, reader c = .ok (some a, d) → d.source = c.source ∧
            ∃ w, w ≠ [] ∧ c.buffer = w ++ d.buffer ∧ d.position = c.position + w.length) ∧
      (∀ {α : Type} (readers others : List (Reader α)),
        (∀ reader ∈ readers, IsAlternative reader) → ∀ c,
          firstOf (readers ++ others) c =
            ((readers.map (· c)).find? decides).getD (firstOf others c)) ∧
      ForwardRecursion id patternStep anyPattern ∧
      (∀ p place, IsNested p →
        ForwardRecursion Prod.snd (itemTurn (itemReader place p)) fun s =>
          commaSeparated (itemReader place p) s.2.buffer.length s.1 s.2) ∧
      (∀ plain, ForwardRecursion id (bodyTurn plain) fun c =>
        stringBody plain c.buffer.length c) ∧
      ∀ text, parse text = parseWith anyPattern text ∧
        (∀ base depth, text.length < depth →
          parse text = parseWith (patternStep^[depth] base) text) ∧
        ∀ tree, parse text = .ok tree → tree.nesting ≤ text.length := by
  refine ⟨fun reader isAlternative c => ⟨fun d => isAlternative.progresses.nothing, ?_⟩, ?_,
    anyPattern_recursion, fun p place nested => (items_limited nested place).result,
    fun plain => (stringBody_limited plain).result, fun text => ⟨parse_unlimited text,
      fun base depth deep => parse_rounds deep base, fun tree read => ?_⟩⟩
  · intro a d found
    obtain ⟨w, nonempty, span⟩ := isAlternative.progresses.something found
    refine ⟨by rw [span.2]; rfl, w, nonempty, span.buffer, ?_⟩
    rw [span.2, advance, Nat.min_eq_left span.1.length_le]
  · intro α readers others each c
    exact firstOf_append_eq fun reader member _ => (each reader member).progresses.nothing
  · exact nesting_le_length (derives_of_parse read)

/-- A reader of strings finds nothing in front of an array, which stays to be read, also where a
reader that always fails stands below the rounds. -/
theorem reading_goes_forward_array :
    ∃ text, text = Text.ofString "[_, ...x]" ∧
      (∃ d, Cursor.string (start text) = .ok (none, d) ∧ d = start text) ∧
      (∃ a d, bracketed '[' ']' (sequenceItems (pattern 2)) (start text) = .ok (some a, d) ∧
        d.buffer = [] ∧ d.position = 9 ∧ ∃ w, w ≠ [] ∧ (start text).buffer = w ++ d.buffer ∧
          d.position = (start text).position + w.length) ∧
      parse text = parseWith (patternStep^[10] fun c => .error (.malformed .expectedPattern c)) text ∧
      ∃ tree, parse text = .ok tree ∧ tree.nesting = 3 ∧ tree.nesting ≤ text.length := by
  obtain ⟨alternatives, -, -, -, -, texts⟩ := reading_goes_forward
  let text := Text.ofString "[_, ...x]"
  have nothing : Cursor.string (start text) = .ok (none, start text) := rfl
  have array : (bracketed '[' ']' (sequenceItems (pattern 2)) (start text)).map
      (fun answer => (answer.1.isSome, answer.2.buffer, answer.2.position)) = .ok (true, [], 9) := by
    decide +kernel
  have nesting : (parse text).map nesting = .ok 3 := by decide +kernel
  obtain ⟨⟨found, d⟩, something, same⟩ := exists_of_map_ok array
  obtain ⟨tree, read, deep⟩ := exists_of_map_ok nesting
  simp only [Prod.mk.injEq, Option.isSome_iff_exists] at same
  obtain ⟨⟨a, rfl⟩, buffer, position⟩ := same
  have stays := (alternatives _ .string (start text)).1 _ nothing
  have moves := (alternatives _ (.series '[' ']' .sequence (.upTo 2)) (start text)).2 a d something
  exact ⟨text, rfl, ⟨_, nothing, stays⟩, ⟨a, d, something, buffer, position, moves.2⟩,
    (texts text).2.1 _ 10 (by decide), tree, read, deep, (texts text).2.2 tree read⟩

end PatternDispatch.Pattern.Parser
