import PatternDispatch.Proofs.CacheHistory

/-!
What a compilation that fails leaves behind. In a cache that is switched on it leaves nothing, so the
counters share out the compilations that succeeded. A cache that is switched off counts a compilation
before the text is read: it enters nothing, but every attempt stays counted.
-/

namespace PatternDispatch

open Pattern.Parser (parse)

namespace Cache

variable {cache : Cache} {text : Text} {failure : Failure}

/-- A compilation that fails leaves a cache that is switched on as it was. -/
theorem state_of_failed (enabled : cache.enabled = true)
    (failed : (compile text cache).outcome.result = .error failure) :
    (compile text cache).state = cache := by
  have compiling := compiling enabled text
  generalize compile text cache = ran at compiling failed
  cases compiling with
  | hit known => cases failed
  | unreadable unknown unread => rfl
  | reuse unknown read known => cases failed
  | fresh unknown read new compiles => cases failed

/-- In a cache that is switched off it stays counted as if it had succeeded. -/
theorem state_of_failed_off (off : cache.enabled = false)
    (failed : (compile text cache).outcome.result = .error failure) :
    (compile text cache).state = { cache with
      counters := { cache.counters with compiles := cache.counters.compiles + 1 } } := by
  rw [compile_off off] at failed ⊢
  cases made : Procedure.ofText text with
  | error other => rfl
  | ok procedure =>
    rw [made] at failed
    cases failed

/-! ## Caches that are switched off -/

def Entry.isFailure : Entry → Bool
  | compiled _ (.error _) => true
  | _ => false

namespace Session

/-- A new cache that is switched off, after any uses. -/
def afterOff (uses : List Use) : Session := uses.foldl use ⟨empty false, [], []⟩

/-- Nothing is entered, and since the last reset every attempt is counted. -/
structure Unkept (s : Session) : Prop where
  off : s.cache.enabled = false
  texts : s.cache.byText = .empty
  canonicals : s.cache.byCanonical = .empty
  total : s.cache.counters.total =
    s.sinceReset.countP (·.isSuccess) + s.sinceReset.countP (·.isFailure)

variable {s : Session}

/-- A use that is no reset counts one if it is an attempt to compile. -/
theorem Unkept.step (unkept : s.Unkept) {next : Cache} {events : List Event} {entry : Entry}
    (quiet : entry.isReset = false) (off : next.enabled = false)
    (texts : next.byText = s.cache.byText) (canonicals : next.byCanonical = s.cache.byCanonical)
    (total : next.counters.total =
      s.cache.counters.total + (entry.isSuccess.toNat + entry.isFailure.toNat)) :
    Unkept ⟨next, events, s.history ++ [entry]⟩ where
  off := off
  texts := texts.trans unkept.texts
  canonicals := canonicals.trans unkept.canonicals
  total := by
    have grown : sinceReset ⟨next, events, s.history ++ [entry]⟩ = s.sinceReset ++ [entry] :=
      List.rtakeWhile_concat_pos _ _ _ (by rw [quiet]; rfl)
    have one (holds : Entry → Bool) : [entry].countP holds = (holds entry).toNat := by
      cases same : holds entry <;> simp [same]
    rw [grown, List.countP_append, List.countP_append, one, one, total, unkept.total]
    omega

theorem Unkept.reset (unkept : s.Unkept) {events : List Event} {result : Except Failure CacheReport} :
    Unkept ⟨{ s.cache with counters := .zero }, events, s.history ++ [.reported true result]⟩ where
  off := unkept.off
  texts := unkept.texts
  canonicals := unkept.canonicals
  total := by
    have none : sinceReset ⟨{ s.cache with counters := .zero }, events,
        s.history ++ [.reported true result]⟩ = [] :=
      List.rtakeWhile_concat_neg _ _ _ Bool.false_ne_true
    rw [none]
    rfl

theorem Unkept.compile (unkept : s.Unkept) (text : Text) : (s.use (.compile text)).Unkept := by
  unfold use
  dsimp only
  rw [compile_off unkept.off]
  cases Procedure.ofText text with
  | error failure => exact unkept.step rfl unkept.off rfl rfl rfl
  | ok procedure => exact unkept.step rfl unkept.off rfl rfl rfl

theorem unkept_use (unkept : s.Unkept) (one : Use) : (s.use one).Unkept := by
  cases one with
  | compile text => exact unkept.compile text
  | lookup text => exact unkept.step rfl unkept.off rfl rfl rfl
  | contains text => exact unkept.step rfl unkept.off rfl rfl rfl
  | report reset =>
    unfold use
    dsimp only
    rw [report_eq]
    cases reset with
    | false => exact unkept.step rfl unkept.off rfl rfl rfl
    | true => exact unkept.reset

theorem unkept_afterOff (uses : List Use) : (afterOff uses).Unkept := by
  induction uses using List.reverseRecOn with
  | nil => exact ⟨rfl, rfl, rfl, rfl⟩
  | append_singleton uses last ih =>
    rw [afterOff, List.foldl_concat]
    exact unkept_use ih last

end Session

/-- What compilations that fail do to a cache in any state. Neither table changes, and if the cache
is switched on nothing changes at all, so over any uses the counters add up to the compilations that
succeeded since the last reset. If it is switched off, the failed attempt is counted among the
compilations, so there the counters add up to all attempts. -/
theorem failures_accounted (cache : Cache) (text : Text) (uses : List Use) :
    (∀ failure, (compile text cache).outcome.result = .error failure →
      (compile text cache).state = { cache with counters :=
        if cache.enabled then cache.counters
        else { cache.counters with compiles := cache.counters.compiles + 1 } }) ∧
    (Session.after uses).cache.counters.total =
      (Session.after uses).sinceReset.countP (·.isSuccess) ∧
    let s := Session.afterOff uses
    s.cache.counters.total =
        s.sinceReset.countP (·.isSuccess) + s.sinceReset.countP (·.isFailure) ∧
      s.cache.byText = .empty ∧ s.cache.byCanonical = .empty := by
  refine ⟨fun failure failed => ?_, ?_, ?_⟩
  · by_cases enabled : cache.enabled = true
    · rw [if_pos enabled]
      exact state_of_failed enabled failed
    · rw [if_neg enabled]
      exact state_of_failed_off (Bool.eq_false_iff.mpr enabled) failed
  · exact (Session.sound_after uses).counted.total
  · have unkept := Session.unkept_afterOff uses
    exact ⟨unkept.total, unkept.texts, unkept.canonicals⟩

/-- An open bracket cannot be read. It leaves a new cache that is switched on as it is, and one
that is switched off with a compilation counted although none has succeeded. -/
theorem failures_accounted_bracket :
    let text := Text.ofString "["
    (∃ failure, (compile text (empty true)).outcome.result = .error failure ∧
      (compile text (empty true)).state = empty true) ∧
    (∃ failure, (compile text (empty false)).outcome.result = .error failure ∧
      (compile text (empty false)).state.counters = ⟨0, 0, 1⟩) := by
  intro text
  have fails (enabled : Bool) :
      ∃ failure, (compile text (empty enabled)).outcome.result = .error failure := by
    have unread : ∃ e, parse text = .error e := ⟨_, rfl⟩
    obtain ⟨e, unread⟩ := unread
    exact ⟨_, compile_error_iff.mpr ⟨fun _ => rfl, e, unread, rfl⟩⟩
  obtain ⟨failure, failed⟩ := fails true
  obtain ⟨other, failedOff⟩ := fails false
  have kept := (failures_accounted (empty true) text []).1 failure failed
  have counted := (failures_accounted (empty false) text []).1 other failedOff
  exact ⟨⟨failure, failed, kept⟩, other, failedOff, congrArg Cache.counters counted⟩

end Cache

end PatternDispatch
