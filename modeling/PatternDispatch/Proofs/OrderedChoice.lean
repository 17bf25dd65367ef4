import PatternDispatch.Proofs.GrammarCompleteness

/-!
Ordered choice. An alternative that finds nothing has not moved the cursor, and one that finds
something has passed over text. So all alternatives of a choice are tried at one place, and the
answer is that of the first which has something to say there.
-/

namespace PatternDispatch

namespace Grammar

open Pattern.Parser

theorem ItemAt.passes {place : Place} {form : Form} {c d : Cursor} (item : ItemAt place form c d) :
    c.Passes d := by
  obtain ⟨e, spelled, blanks⟩ := item
  have passed : c.Passes e := spelled.extent
  exact passed.trans_reaches blanks.reaches

theorem itemReader_sound {p : Reader Pattern} (sound : Sound p PatternAt) (place : Place) :
    Sound (itemReader place p) (ItemAt place) := by
  cases place with
  | sequence => exact sequenceItem_sound sound
  | fields => exact field_sound sound

end Grammar

namespace Pattern.Parser

open Cursor Grammar

/-! ## The alternatives -/

/-- A pattern of any nesting depth: what is left of the text bounds the depth. -/
def anyPattern : Reader Pattern := fun c => pattern c.buffer.length c

/-- The readers of nested patterns. -/
inductive IsNested : Reader Pattern → Prop where
  | upTo (depth : Nat) : IsNested (pattern depth)
  | any : IsNested anyPattern

/-- The alternatives of a pattern, in their order. -/
def alternatives (p : Reader Pattern) : List (Reader Pattern) :=
  decisive p ++ [identifierOrBinder p]

theorem patternStep_eq_firstOf (p : Reader Pattern) : patternStep p = firstOf (alternatives p) := rfl

/-- The readers that a choice can be made of, and those of brackets, keys and literals. -/
inductive IsAlternative : {α : Type} → Reader α → Prop where
  | nested {p : Reader Pattern} : IsNested p → IsAlternative p
  | alternative {p reader : Reader Pattern} : IsNested p → reader ∈ alternatives p →
      IsAlternative reader
  | building {α : Type} {reader : Reader α} (make : α → Pattern) : IsAlternative reader →
      IsAlternative (building reader make)
  | rest {p : Reader Pattern} : IsNested p → IsAlternative (rest p)
  | fieldRest {p : Reader Pattern} : IsNested p → IsAlternative (fieldRest p)
  | keyed {p : Reader Pattern} : IsNested p → IsAlternative (keyed p)
  | item {p : Reader Pattern} (place : Place) : IsNested p → IsAlternative (itemReader place p)
  | series {p : Reader Pattern} (opening closing : Char) (place : Place) : IsNested p →
      IsAlternative (bracketed opening closing (items (itemReader place p)))
  /-- One pattern in brackets, or none. -/
  | single {p : Reader Pattern} (opening closing : Char) : IsNested p →
      IsAlternative (bracketed opening closing p)
  | key : IsAlternative key
  | lexeme (token : Token) : IsAlternative (lexeme token)
  | number : IsAlternative Cursor.number
  | string : IsAlternative Cursor.string

theorem IsNested.sound {p : Reader Pattern} (nested : IsNested p) : Sound p PatternAt := by
  cases nested with
  | upTo depth => exact pattern_sound depth
  | any => exact ⟨(pattern_sound _).nothing, (pattern_sound _).something⟩

/-! ## Moving forward or not at all -/

/-- A reader that finds nothing does not move, and one that finds something passes over text. -/
structure Progresses {α : Type} (reader : Reader α) : Prop where
  nothing : ∀ {c d}, reader c = .ok (none, d) → d = c
  something : ∀ {c a d}, reader c = .ok (some a, d) → c.Passes d

section Progresses

variable {α : Type} {p : Reader Pattern}

theorem Progresses.reaches {reader : Reader α} (progresses : Progresses reader) {c d : Cursor}
    {found : Option α} (read : reader c = .ok (found, d)) : c.Reaches d := by
  cases found with
  | none =>
    rw [progresses.nothing read]
    exact Reaches.refl c
  | some a => exact (progresses.something read).reaches

/-- What derives text passes over it. -/
theorem progresses_of_sound {reader : Reader Pattern} {spells : Form → Cursor → Cursor → Prop}
    (sound : Sound reader spells) (extent : ∀ {form c d}, spells form c d → c.Passes d) :
    Progresses reader where
  nothing := sound.nothing
  something read := by
    obtain ⟨form, -, spelled⟩ := sound.something read
    exact extent spelled

theorem firstOf_progresses {readers : List (Reader α)}
    (each : ∀ reader ∈ readers, Progresses reader) : Progresses (firstOf readers) where
  nothing nothing := (firstOf_nothing (fun r member _ => (each r member).nothing) nothing).1
  something something := by
    obtain ⟨r, member, read⟩ :=
      firstOf_something (fun r member _ => (each r member).nothing) something
    exact (each r member).something read

theorem string_progresses : Progresses Cursor.string := ⟨string_none, string_some⟩

theorem lexeme_progresses (token : Token) : Progresses (lexeme token) where
  nothing nothing := (lexeme_nothing nothing).1
  something something := by
    obtain ⟨l, lexed, -⟩ := lexeme_something something
    exact lex?_passes lexed

theorem key_progresses : Progresses key :=
  firstOf_progresses (List.forall_mem_cons.mpr
    ⟨string_progresses, List.forall_mem_singleton.mpr (lexeme_progresses .key)⟩)

theorem building_progresses {reader : Reader α} (make : α → Pattern)
    (progresses : Progresses reader) : Progresses (building reader make) where
  nothing nothing := progresses.nothing (building_nothing nothing)
  something something := by
    obtain ⟨a, read, -⟩ := building_something something
    exact progresses.something read

theorem single_progresses (opening closing : Char) {inner : Reader α}
    (progresses : Progresses inner) : Progresses (bracketed opening closing inner) where
  nothing := bracketed_nothing
  something something := by
    obtain ⟨a, b, opens, inside, closes⟩ := bracketed_something something
    have opened : Passes _ a := ⟨_, by simp, opens⟩
    have read := a.skipBlanks_spec.1.reaches.trans (progresses.reaches inside)
    exact opened.trans_reaches (read.trans (b.skipBlanks_spec.1.reaches.trans ⟨_, closes⟩))

theorem series_progresses (opening closing : Char) (place : Place) (sound : Sound p PatternAt) :
    Progresses (bracketed opening closing (items (itemReader place p))) where
  nothing := bracketed_nothing
  something something := by
    obtain ⟨forms, trailing, -, spelled⟩ :=
      bracketed_items_sound (itemReader_sound sound place) something
    exact spelled.extent

theorem decisive_progress (sound : Sound p PatternAt) :
    ∀ reader ∈ decisive p, Progresses reader :=
  fun reader member => progresses_of_sound (decisive_sound sound reader member) Spells.extent

theorem structures_progress (sound : Sound p PatternAt) :
    ∀ reader ∈ structures p, Progresses reader := by
  have decides {reader : Reader Pattern} (member : reader ∈ decisive p) : Progresses reader :=
    decisive_progress sound reader member
  simp only [structures, List.forall_mem_cons, List.not_mem_nil, false_implies, implies_true,
    and_true]
  exact ⟨decides (by simp [decisive]), decides (by simp [decisive]), decides (by simp [decisive])⟩

theorem identifierOrBinder_progresses (sound : Sound p PatternAt) :
    Progresses (identifierOrBinder p) where
  nothing := identifierOrBinder_nothing
  something something := by
    have structured := firstOf_progresses (structures_progress sound)
    unfold identifierOrBinder at something
    split at something
    · cases something
    · next named =>
      split at something
      · cases something
        exact lex?_passes named
      · next marked =>
        split at something
        · cases something
        · cases something
        · next bound =>
          cases something
          exact (lex?_passes named).trans_reaches
            ((acceptChar?_passes marked).reaches.trans (structured.reaches bound))

theorem alternatives_progress (sound : Sound p PatternAt) :
    ∀ reader ∈ alternatives p, Progresses reader := by
  intro reader member
  rcases List.mem_append.mp member with decides | last
  · exact decisive_progress sound reader decides
  · obtain rfl := List.mem_singleton.mp last
    exact identifierOrBinder_progresses sound

theorem itemReader_progresses (place : Place) (sound : Sound p PatternAt) :
    Progresses (itemReader place p) :=
  progresses_of_sound (itemReader_sound sound place) ItemAt.passes

theorem rest_progresses (sound : Sound p PatternAt) : Progresses (rest p) :=
  progresses_of_sound (rest_sound sound) fun spelled => (spelled .sequence nofun).extent

theorem IsAlternative.progresses {reader : Reader α} (isAlternative : IsAlternative reader) :
    Progresses reader := by
  induction isAlternative with
  | nested nested => exact progresses_of_sound nested.sound Spells.extent
  | alternative nested member => exact alternatives_progress nested.sound _ member
  | building make _ ih => exact building_progresses make ih
  | rest nested => exact rest_progresses nested.sound
  | fieldRest nested => exact progresses_of_sound (fieldRest_sound nested.sound) ItemAt.passes
  | keyed nested => exact progresses_of_sound (keyed_sound nested.sound) ItemAt.passes
  | item place nested => exact itemReader_progresses place nested.sound
  | series opening closing place nested =>
    exact series_progresses opening closing place nested.sound
  | single opening closing nested =>
    exact single_progresses opening closing (progresses_of_sound nested.sound Spells.extent)
  | key => exact key_progresses
  | lexeme token => exact lexeme_progresses token
  | number => exact ⟨number_none, number_some⟩
  | string => exact string_progresses

end Progresses

/-! ## One place for all alternatives -/

section Choice

variable {α : Type} {readers others : List (Reader α)} {c : Cursor}

/-- Whether an answer leaves nothing to the alternatives behind. -/
def decides : Reading α → Bool
  | .ok (none, _) => false
  | _ => true

/-- What stands behind alternatives is tried at their place, when none of their answers decides. -/
theorem firstOf_append_eq
    (unmoved : ∀ reader ∈ readers, ∀ d, reader c = .ok (none, d) → d = c) :
    firstOf (readers ++ others) c =
      ((readers.map (· c)).find? decides).getD (firstOf others c) := by
  induction readers with
  | nil => rfl
  | cons reader readers ih =>
    obtain ⟨first, later⟩ := List.forall_mem_cons.mp unmoved
    rw [List.cons_append, firstOf, List.map_cons]
    split
    · next next nothing =>
      obtain rfl := first next nothing
      rw [ih later, nothing, List.find?_cons_of_neg (by simp [decides])]
    · next something =>
      have decided : decides (reader c) = true := by
        unfold decides
        split
        · next next nothing => exact absurd nothing (something next)
        · rfl
      rw [List.find?_cons_of_pos decided]
      rfl

/-- Choices are the same where their alternatives answer the same. -/
theorem firstOf_congr (same : readers.map (· c) = others.map (· c))
    (unmoved : ∀ reader ∈ others, ∀ d, reader c = .ok (none, d) → d = c) :
    firstOf readers c = firstOf others c := by
  have unmovedToo : ∀ reader ∈ readers, ∀ d, reader c = .ok (none, d) → d = c := by
    intro reader member d nothing
    obtain ⟨other, among, answers⟩ :=
      List.mem_map.mp (same ▸ List.mem_map_of_mem member : reader c ∈ others.map (· c))
    exact unmoved other among d (answers.trans nothing)
  rw [← List.append_nil readers, ← List.append_nil others, firstOf_append_eq unmovedToo,
    firstOf_append_eq unmoved, same]

end Choice

end Pattern.Parser

end PatternDispatch
