import PatternDispatch.Cache
import PatternDispatch.Proofs.ReadableProcedure

/-!
How compiling a text goes. There are four ways in a cache that is switched on, and whatever holds of
caches is kept if each of them keeps it. A procedure is found under a text or a spelling only if it
was compiled from a text with that spelling, though not from that text: whichever text comes first is
compiled.
-/

namespace PatternDispatch

open Pattern.Parser (parse)

/-- A procedure that is compiled from some text of this spelling. -/
def Procedure.IsSpelled (p : Procedure) (spelling : Text) : Prop :=
  ∃ text tree, parse text = .ok tree ∧ tree.canonical = spelling ∧ ofTree tree = .ok p

namespace Cache

variable {cache : Cache} {text : Text} {tree : Pattern} {compiled : Compiled}
  {procedure : Procedure}

/-! ## Ways to compile -/

/-- How compiling a text can go in a cache that is switched on. -/
inductive Compiling (cache : Cache) (text : Text) : Ran Cache Compiled → Prop where
  | hit {compiled : Compiled} (known : cache.byText.find? text = some compiled) :
      Compiling cache text ⟨{ cache with
        counters := { cache.counters with textHits := cache.counters.textHits + 1 } },
        [], .ok compiled⟩
  | unreadable {error : ParseError} (unknown : cache.byText.find? text = none)
      (unread : parse text = .error error) :
      Compiling cache text ⟨cache, [], .error (.malformed error)⟩
  | reuse {tree : Pattern} {compiled : Compiled} (unknown : cache.byText.find? text = none)
      (read : parse text = .ok tree)
      (known : cache.byCanonical.find? tree.canonical = some compiled) :
      Compiling cache text ⟨{ cache with
        byText := cache.byText.insert text compiled
        counters := { cache.counters with canonicalHits := cache.counters.canonicalHits + 1 } },
        [.patternReused text tree.canonical], .ok compiled⟩
  | fresh {tree : Pattern} {procedure : Procedure} (unknown : cache.byText.find? text = none)
      (read : parse text = .ok tree) (new : cache.byCanonical.find? tree.canonical = none)
      (compiles : Procedure.ofTree tree = .ok procedure) :
      Compiling cache text ⟨{ cache with
        byText := cache.byText.insert text ⟨cache.next, procedure⟩
        byCanonical := cache.byCanonical.insert tree.canonical ⟨cache.next, procedure⟩
        counters := { cache.counters with compiles := cache.counters.compiles + 1 }
        next := cache.next + 1 },
        [.patternCompiled tree.canonical procedure.arity], .ok ⟨cache.next, procedure⟩⟩

theorem compileTree_known (known : cache.byCanonical.find? tree.canonical = some compiled) :
    compileTree text tree cache = ⟨{ cache with
      counters := { cache.counters with canonicalHits := cache.counters.canonicalHits + 1 } },
      [.patternReused text tree.canonical], .ok compiled⟩ := by
  have started : (Action.state : Action Cache Cache) cache = ⟨cache, [], .ok cache⟩ := rfl
  unfold compileTree
  rw [Action.bind_of_ok started, known]
  rfl

theorem compileTree_new (new : cache.byCanonical.find? tree.canonical = none)
    (compiles : Procedure.ofTree tree = .ok procedure) :
    compileTree text tree cache = ⟨{ cache with
      byCanonical := cache.byCanonical.insert tree.canonical ⟨cache.next, procedure⟩
      counters := { cache.counters with compiles := cache.counters.compiles + 1 }
      next := cache.next + 1 },
      [.patternCompiled tree.canonical procedure.arity], .ok ⟨cache.next, procedure⟩⟩ := by
  have started : (Action.state : Action Cache Cache) cache = ⟨cache, [], .ok cache⟩ := rfl
  unfold compileTree
  rw [Action.bind_of_ok started, new, compiles]
  rfl

/-- Compiling goes one of these ways: a text that is read always compiles. -/
theorem compiling (enabled : cache.enabled = true) (text : Text) :
    Compiling cache text (compile text cache) := by
  have started : (Action.state : Action Cache Cache) cache = ⟨cache, [], .ok cache⟩ := rfl
  unfold compile
  rw [Action.bind_of_ok started, if_pos enabled]
  cases found : cache.byText.find? text with
  | some compiled => exact .hit found
  | none =>
    dsimp only [compileText]
    cases read : parse text with
    | error error => exact .unreadable found read
    | ok tree =>
      dsimp only
      cases known : cache.byCanonical.find? tree.canonical with
      | some compiled =>
        rw [Action.bind_of_ok (compileTree_known known)]
        exact .reuse found read known
      | none =>
        obtain ⟨items, rfl, readable⟩ := Grammar.readable_of_parse read
        have compiles := Procedure.ofTree_readable readable
        rw [Action.bind_of_ok (compileTree_new known compiles)]
        exact .fresh found read known compiles

/-- A cache that is switched off counts every attempt and enters nothing. -/
theorem compile_off (off : cache.enabled = false) (text : Text) :
    compile text cache =
      match Procedure.ofText text with
      | .error failure => ⟨{ cache with
          counters := { cache.counters with compiles := cache.counters.compiles + 1 } },
          [], .error failure⟩
      | .ok procedure => ⟨{ cache with
          counters := { cache.counters with compiles := cache.counters.compiles + 1 }
          next := cache.next + 1 }, [], .ok ⟨cache.next, procedure⟩⟩ := by
  have started : (Action.state : Action Cache Cache) cache = ⟨cache, [], .ok cache⟩ := rfl
  unfold compile
  rw [Action.bind_of_ok started, if_neg (Bool.eq_false_iff.mp off), compileUncached]
  cases Procedure.ofText text <;> rfl

/-- A text that can be read compiles in any cache, switched on or off. -/
theorem compile_readable (cache : Cache) (read : parse text = .ok tree) :
    ∃ next events compiled, compile text cache = ⟨next, events, .ok compiled⟩ := by
  by_cases enabled : cache.enabled = true
  · have compiling := compiling enabled text
    generalize compile text cache = ran at compiling
    cases compiling with
    | hit known => exact ⟨_, _, _, rfl⟩
    | unreadable unknown unread => cases read.symm.trans unread
    | reuse unknown read known => exact ⟨_, _, _, rfl⟩
    | fresh unknown read new compiles => exact ⟨_, _, _, rfl⟩
  · obtain ⟨procedure, readable, -⟩ := Procedure.exists_ofText read
    rw [compile_off (Bool.eq_false_iff.mpr enabled), readable]
    exact ⟨_, _, _, rfl⟩

/-- Compiling fails just where the text cannot be read, unless it is kept all the same. -/
theorem compile_error_iff {failure : Failure} :
    (compile text cache).outcome.result = .error failure ↔
      (cache.enabled = true → cache.byText.find? text = none) ∧
        ∃ e, parse text = .error e ∧ failure = .malformed e := by
  by_cases enabled : cache.enabled = true
  · have compiling := compiling enabled text
    generalize compile text cache = ran at compiling
    cases compiling with
    | hit known => simp [enabled, known]
    | unreadable unknown unread => simp [enabled, unknown, unread, eq_comm]
    | reuse unknown read known => simp [read]
    | fresh unknown read new compiles => simp [read]
  · have off := Bool.eq_false_iff.mpr enabled
    rw [compile_off off]
    cases read : parse text with
    | error e =>
      have unread : Procedure.ofText text = .error (.malformed e) := by rw [Procedure.ofText, read]
      simp [unread, off, eq_comm]
    | ok tree =>
      obtain ⟨procedure, readable, -⟩ := Procedure.exists_ofText read
      simp [readable]

/-! ## What is kept -/

structure Sound (cache : Cache) : Prop where
  enabled : cache.enabled = true
  canonical : ∀ spelling compiled, cache.byCanonical.find? spelling = some compiled →
    compiled.procedure.IsSpelled spelling
  /-- A text has the procedure that is kept under its spelling. -/
  text : ∀ text compiled, cache.byText.find? text = some compiled →
    ∃ tree, parse text = .ok tree ∧ cache.byCanonical.find? tree.canonical = some compiled

theorem sound_empty : (empty true).Sound where
  enabled := rfl
  canonical _ _ found := nomatch found
  text _ _ found := nomatch found

theorem Sound.known (sound : cache.Sound) (read : parse text = .ok tree)
    (found : cache.byText.find? text = some compiled) :
    cache.byCanonical.find? tree.canonical = some compiled := by
  obtain ⟨own, again, known⟩ := sound.text text compiled found
  obtain rfl := Except.ok.inj (again.symm.trans read)
  exact known

theorem Sound.count (sound : cache.Sound) (counters : Counters) :
    Sound { cache with counters := counters } := ⟨sound.enabled, sound.canonical, sound.text⟩

theorem Sound.reuse (sound : cache.Sound) (counters : Counters) (read : parse text = .ok tree)
    (known : cache.byCanonical.find? tree.canonical = some compiled) :
    Sound { cache with byText := cache.byText.insert text compiled, counters := counters } where
  enabled := sound.enabled
  canonical := sound.canonical
  text other found stored := by
    dsimp only at stored
    rw [Table.find?_insert] at stored
    split at stored
    · next same =>
      cases stored
      exact ⟨tree, same ▸ read, known⟩
    · exact sound.text other found stored

theorem Sound.fresh (sound : cache.Sound) (counters : Counters) (next : Nat)
    (read : parse text = .ok tree) (new : cache.byCanonical.find? tree.canonical = none)
    (compiles : Procedure.ofTree tree = .ok compiled.procedure) :
    Sound { cache with
      byText := cache.byText.insert text compiled
      byCanonical := cache.byCanonical.insert tree.canonical compiled
      counters := counters
      next := next } where
  enabled := sound.enabled
  canonical spelling found stored := by
    dsimp only at stored
    rw [Table.find?_insert] at stored
    split at stored
    · next same =>
      cases stored
      exact ⟨text, tree, read, same.symm, compiles⟩
    · exact sound.canonical spelling found stored
  text other found stored := by
    dsimp only at stored
    rw [Table.find?_insert] at stored
    split at stored
    · next same =>
      cases stored
      exact ⟨tree, same ▸ read, by rw [Table.find?_insert, if_pos rfl]⟩
    · obtain ⟨own, again, under⟩ := sound.text other found stored
      exact ⟨own, again, Table.find?_insert_of_new new under⟩

/-- Compiling keeps the cache sound, also when the text cannot be read. -/
theorem Compiling.sound {ran : Ran Cache Compiled} (compiling : Compiling cache text ran)
    (sound : cache.Sound) : ran.state.Sound := by
  cases compiling with
  | hit known => exact sound.count _
  | unreadable unknown unread => exact sound
  | reuse unknown read known => exact sound.reuse _ read known
  | fresh unknown read new compiles => exact sound.fresh _ _ read new compiles

/-- What compiling a tree answers: what is kept under its spelling, or else its own procedure. -/
structure Answers (cache : Cache) (tree : Pattern) (next : Cache) (compiled : Compiled) : Prop where
  sound : next.Sound
  kept : next.byCanonical.find? tree.canonical = some compiled
  found : ∀ known, cache.byCanonical.find? tree.canonical = some known → compiled = known
  fresh : cache.byCanonical.find? tree.canonical = none →
    Procedure.ofTree tree = .ok compiled.procedure

theorem answers_known {next : Cache} (sound : next.Sound)
    (known : cache.byCanonical.find? tree.canonical = some compiled)
    (same : next.byCanonical = cache.byCanonical) : cache.Answers tree next compiled where
  sound := sound
  kept := by rw [same, known]
  found _ other := Option.some.inj (known.symm.trans other)
  fresh none := nomatch known.symm.trans none

/-- Compiling a text that can be read answers as compiling its tree does. -/
theorem compile_spec (sound : cache.Sound) (read : parse text = .ok tree) :
    ∃ next events compiled, compile text cache = ⟨next, events, .ok compiled⟩ ∧
      cache.Answers tree next compiled := by
  have compiling := compiling sound.enabled text
  have kept := compiling.sound sound
  generalize compile text cache = ran at compiling kept
  cases compiling with
  | hit known => exact ⟨_, _, _, rfl, answers_known kept (sound.known read known) rfl⟩
  | unreadable unknown unread => cases read.symm.trans unread
  | reuse unknown again known =>
    obtain rfl := Except.ok.inj (again.symm.trans read)
    exact ⟨_, _, _, rfl, answers_known kept known rfl⟩
  | fresh unknown again new compiles =>
    obtain rfl := Except.ok.inj (again.symm.trans read)
    refine ⟨_, _, _, rfl, kept, ?_, ?_, fun _ => compiles⟩
    · exact (Table.find?_insert _ _ _ _).trans (if_pos rfl)
    · intro known same
      cases new.symm.trans same

/-- In any cache in use, switched on or off, a text that can be read compiles to the procedure of
some text with its spelling. -/
theorem compile_isSpelled (sound : cache.enabled = true → cache.Sound) (read : parse text = .ok tree) :
    ∃ next events compiled, compile text cache = ⟨next, events, .ok compiled⟩ ∧
      compiled.procedure.IsSpelled tree.canonical := by
  cases enabled : cache.enabled with
  | true =>
    obtain ⟨next, events, compiled, ran, answers⟩ := compile_spec (sound enabled) read
    exact ⟨next, events, compiled, ran, answers.sound.canonical _ _ answers.kept⟩
  | false =>
    obtain ⟨procedure, ofText, compiles⟩ := Procedure.exists_ofText read
    rw [compile_off enabled, ofText]
    exact ⟨_, _, _, rfl, text, tree, read, rfl, compiles⟩

end Cache

end PatternDispatch
