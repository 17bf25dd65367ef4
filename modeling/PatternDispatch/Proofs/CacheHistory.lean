import Mathlib.Data.List.DropRight
import PatternDispatch.Log
import PatternDispatch.Proofs.CacheSteps
import PatternDispatch.Proofs.RespelledRun

/-!
What a cache has been through. The two tables, the counters and the log of a cache tell of its whole
use: every text that was ever compiled has the procedure that is kept under its spelling, the
counters share out the compilations that succeeded, and the log has a line for each text.
-/

namespace PatternDispatch

open Pattern.Parser (parse canonicalize)

namespace Cache

variable {cache : Cache} {text : Text}

/-- What can be done with a cache, and what it answered. -/
inductive Entry where
  | compiled (text : Text) (result : Except Failure Compiled)
  | lookedUp (text : Text) (found : Option Compiled)
  | checked (text : Text) (present : Bool)
  | reported (reset : Bool) (result : Except Failure CacheReport)

inductive Use where
  | compile (text : Text)
  | lookup (text : Text)
  | contains (text : Text)
  | report (reset : Bool)

/-- A cache in use, with all events so far and all that it was asked. -/
structure Session where
  cache : Cache
  events : List Event
  history : List Entry

namespace Session

def start : Session := ⟨empty true, [], []⟩

/-- One use more. A text that cannot be compiled fails its use and nothing else. -/
def use (s : Session) : Use → Session
  | .compile text =>
    let ran := Cache.compile text s.cache
    ⟨ran.state, s.events ++ ran.outcome.events, s.history ++ [.compiled text ran.outcome.result]⟩
  | .lookup text => { s with history := s.history ++ [.lookedUp text (s.cache.find? text)] }
  | .contains text => { s with history := s.history ++ [.checked text (s.cache.contains text)] }
  | .report reset =>
    let ran := Cache.report reset s.cache
    ⟨ran.state, s.events ++ ran.outcome.events, s.history ++ [.reported reset ran.outcome.result]⟩

/-- A new cache after any uses. -/
def after (uses : List Use) : Session := uses.foldl use start

end Session

namespace Entry

def isSuccess : Entry → Bool
  | compiled _ (.ok _) => true
  | _ => false

def isReset : Entry → Bool
  | reported reset _ => reset
  | _ => false

end Entry

namespace Session

/-- What happened since the counters were last reset. -/
def sinceReset (s : Session) : List Entry := s.history.rtakeWhile (!·.isReset)

end Session

/-! ## Tables -/

/-- The two tables of a cache, and what they tell of its history. -/
structure Filed (cache : Cache) (history : List Entry) : Prop where
  sound : cache.Sound
  succeeded : ∀ text compiled, cache.byText.find? text = some compiled ↔
    .compiled text (.ok compiled) ∈ history
  origin : ∀ key compiled, cache.byCanonical.find? key = some compiled →
    ∃ text tree, cache.byText.find? text = some compiled ∧ parse text = .ok tree ∧
      tree.canonical = key
  numbered : ∀ key compiled, cache.byCanonical.find? key = some compiled →
    compiled.number < cache.next
  distinct : ∀ key other one two, cache.byCanonical.find? key = some one →
    cache.byCanonical.find? other = some two → one.number = two.number → key = other
  texts : cache.byText.keys.Nodup
  canonicals : cache.byCanonical.keys.Nodup

theorem filed_start : Filed (empty true) [] where
  sound := sound_empty
  succeeded _ _ := by
    constructor
    · exact nofun
    · exact nofun
  origin _ _ found := nomatch found
  numbered _ _ found := nomatch found
  distinct _ _ _ _ found := nomatch found
  texts := List.nodup_nil
  canonicals := List.nodup_nil

section Steps

variable {history : List Entry} {tree : Pattern} {compiled : Compiled}

/-- A use that enters nothing keeps the tables, whatever it does to the counters. -/
theorem Filed.quiet (filed : Filed cache history) (counters : Counters) {entry : Entry}
    (known : ∀ text compiled, entry = .compiled text (.ok compiled) →
      cache.byText.find? text = some compiled) :
    Filed { cache with counters := counters } (history ++ [entry]) where
  sound := filed.sound.count counters
  succeeded text compiled := by
    rw [filed.succeeded, List.mem_append, List.mem_singleton]
    constructor
    · exact .inl
    · rintro (before | rfl)
      · exact before
      · exact (filed.succeeded text compiled).mp (known text compiled rfl)
  origin := filed.origin
  numbered := filed.numbered
  distinct := filed.distinct
  texts := filed.texts
  canonicals := filed.canonicals

/-- The first success of a text is entered for it, and no other text has it. -/
theorem Filed.succeeded_insert (filed : Filed cache history)
    (unknown : cache.byText.find? text = none) (other : Text) (found : Compiled) :
    (cache.byText.insert text compiled).find? other = some found ↔
      .compiled other (.ok found) ∈ history ++ [.compiled text (.ok compiled)] := by
  rw [Table.find?_insert, List.mem_append, List.mem_singleton]
  by_cases same : other = text
  · subst same
    have never : .compiled other (.ok found) ∉ history := by
      rw [← filed.succeeded, unknown]
      exact nofun
    simp [never, eq_comm]
  · simp [same, filed.succeeded]

theorem Filed.reuse (filed : Filed cache history) (counters : Counters)
    (unknown : cache.byText.find? text = none) (read : parse text = .ok tree)
    (known : cache.byCanonical.find? tree.canonical = some compiled) :
    Filed { cache with byText := cache.byText.insert text compiled, counters := counters }
      (history ++ [.compiled text (.ok compiled)]) where
  sound := filed.sound.reuse counters read known
  succeeded := filed.succeeded_insert unknown
  origin key found stored := by
    obtain ⟨first, own, under, rest⟩ := filed.origin key found stored
    exact ⟨first, own, Table.find?_insert_of_new unknown under, rest⟩
  numbered := filed.numbered
  distinct := filed.distinct
  texts := Table.nodup_keys_insert filed.texts _ _
  canonicals := filed.canonicals

theorem Filed.fresh (filed : Filed cache history) (counters : Counters) {procedure : Procedure}
    (unknown : cache.byText.find? text = none) (read : parse text = .ok tree)
    (new : cache.byCanonical.find? tree.canonical = none)
    (compiles : Procedure.ofTree tree = .ok procedure) :
    Filed { cache with
        byText := cache.byText.insert text ⟨cache.next, procedure⟩
        byCanonical := cache.byCanonical.insert tree.canonical ⟨cache.next, procedure⟩
        counters := counters
        next := cache.next + 1 }
      (history ++ [.compiled text (.ok ⟨cache.next, procedure⟩)]) where
  sound := filed.sound.fresh counters _ read new compiles
  succeeded := filed.succeeded_insert unknown
  origin key found stored := by
    dsimp only at stored
    rw [Table.find?_insert] at stored
    split at stored
    · next same =>
      cases stored
      exact ⟨text, tree, by rw [Table.find?_insert, if_pos rfl], read, same.symm⟩
    · obtain ⟨first, own, under, rest⟩ := filed.origin key found stored
      exact ⟨first, own, Table.find?_insert_of_new unknown under, rest⟩
  numbered key found stored := by
    dsimp only at stored
    rw [Table.find?_insert] at stored
    split at stored
    · cases stored
      exact Nat.lt_succ_self _
    · exact Nat.lt_succ_of_lt (filed.numbered key found stored)
  distinct key other one two first second same := by
    dsimp only at first second
    rw [Table.find?_insert] at first second
    -- The new number is above all that were given before.
    split at first <;> split at second
    · next left right => rw [left, right]
    · cases first
      have below := filed.numbered other two second
      exact absurd same.symm (Nat.ne_of_lt below)
    · cases second
      have below := filed.numbered key one first
      exact absurd same (Nat.ne_of_lt below)
    · exact filed.distinct key other one two first second same
  texts := Table.nodup_keys_insert filed.texts _ _
  canonicals := Table.nodup_keys_insert filed.canonicals _ _

theorem Filed.mem (filed : Filed cache history) {entry : Text × Compiled}
    (member : entry ∈ cache.byText.entries) : cache.byText.find? entry.1 = some entry.2 :=
  Table.find?_of_mem filed.texts member

/-- What is kept under a spelling has that spelling, and the arity of any text with it. -/
theorem Filed.canonical_eq (filed : Filed cache history) (read : parse text = .ok tree)
    (known : cache.byCanonical.find? tree.canonical = some compiled) :
    compiled.procedure.canonical = tree.canonical ∧
      compiled.procedure.arity = tree.captureCount := by
  obtain ⟨first, own, readFirst, same, compiles⟩ := filed.sound.canonical _ _ known
  obtain ⟨canonical, arity⟩ := Procedure.labels_ofTree compiles
  have respelled : own.Respelled tree := Grammar.normalized_eq_of_canonical readFirst read same
  rw [canonical, arity, same, respelled.captureCount_eq]
  exact ⟨rfl, rfl⟩

/-- Texts share a procedure if they share a spelling, and only then. -/
theorem Filed.number_eq_iff (filed : Filed cache history) {other : Text}
    {tree otherTree : Pattern} {one two : Compiled} (read : parse text = .ok tree)
    (readOther : parse other = .ok otherTree) (first : cache.byText.find? text = some one)
    (second : cache.byText.find? other = some two) :
    one.number = two.number ↔ tree.canonical = otherTree.canonical := by
  have known := filed.sound.known read first
  have knownOther := filed.sound.known readOther second
  constructor
  · exact filed.distinct _ _ _ _ known knownOther
  · intro same
    rw [same, knownOther] at known
    cases known
    rfl

end Steps

/-! ## Counters -/

theorem total_textHit (c : Counters) :
    Counters.total { c with textHits := c.textHits + 1 } = c.total + 1 := by
  simp only [Counters.total, Counters.hits]
  omega

theorem total_canonicalHit (c : Counters) :
    Counters.total { c with canonicalHits := c.canonicalHits + 1 } = c.total + 1 := by
  simp only [Counters.total, Counters.hits]
  omega

/-- The counters share out the compilations that succeeded since the last reset, and without any
reset they tell how many entries there are. -/
structure Counted (cache : Cache) (history : List Entry) : Prop where
  total : cache.counters.total = (history.rtakeWhile (!·.isReset)).countP (·.isSuccess)
  compiles : (∀ entry ∈ history, entry.isReset = false) →
    cache.counters.compiles = cache.byCanonical.size
  texts : (∀ entry ∈ history, entry.isReset = false) →
    cache.counters.canonicalHits + cache.counters.compiles = cache.byText.size

/-- A use that is no reset adds to the counters what it adds to the tables. -/
theorem Counted.step {next : Cache} {history : List Entry} {entry : Entry}
    (counted : Counted cache history) (newSpellings newTexts : Nat)
    (quiet : entry.isReset = false)
    (total : next.counters.total = cache.counters.total + entry.isSuccess.toNat)
    (compiles : next.counters.compiles = cache.counters.compiles + newSpellings)
    (spellings : next.byCanonical.size = cache.byCanonical.size + newSpellings)
    (entered : next.counters.canonicalHits + next.counters.compiles =
      cache.counters.canonicalHits + cache.counters.compiles + newTexts)
    (texts : next.byText.size = cache.byText.size + newTexts) :
    Counted next (history ++ [entry]) where
  total := by
    rw [List.rtakeWhile_concat_pos _ _ _ (by rw [quiet]; rfl), List.countP_append,
      List.countP_singleton, total, counted.total]
    cases entry.isSuccess with
    | true => rfl
    | false => rfl
  compiles none := by
    have before := counted.compiles fun one member => none one (List.mem_append_left _ member)
    rw [compiles, spellings, before]
  texts none := by
    have before := counted.texts fun one member => none one (List.mem_append_left _ member)
    rw [entered, texts, before]

theorem Counted.reset {history : List Entry} {result : Except Failure CacheReport} :
    Counted { cache with counters := .zero } (history ++ [.reported true result]) where
  total := by
    rw [List.rtakeWhile_concat_neg _ _ _ (by exact Bool.false_ne_true)]
    rfl
  compiles none := absurd (none (.reported true result) List.mem_concat_self) nofun
  texts none := absurd (none (.reported true result) List.mem_concat_self) nofun

/-! ## Announcements -/

/-- The event for a text: it is the first of its spelling, or it reuses what the first compiled. -/
def announcement (earlier : List (Text × Compiled)) (entry : Text × Compiled) : Event :=
  let procedure := entry.2.procedure
  if ∃ one ∈ earlier, one.2.procedure.canonical = procedure.canonical then
    .patternReused entry.1 procedure.canonical
  else .patternCompiled procedure.canonical procedure.arity

def announcements (earlier : List (Text × Compiled)) : List (Text × Compiled) → List Event
  | [] => []
  | entry :: entries =>
    announcement earlier entry :: announcements (earlier ++ [entry]) entries

theorem announcements_concat (earlier entries : List (Text × Compiled))
    (entry : Text × Compiled) : announcements earlier (entries ++ [entry]) =
      announcements earlier entries ++ [announcement (earlier ++ entries) entry] := by
  induction entries generalizing earlier with
  | nil => rw [List.nil_append, List.append_nil]; rfl
  | cons first entries ih =>
    rw [List.cons_append, announcements, announcements, ih, List.append_assoc, List.cons_append]
    rfl

/-- The wording of an announcement in the log. -/
def announcementLine (earlier : List (Text × Compiled)) (entry : Text × Compiled) : Text :=
  let procedure := entry.2.procedure
  if ∃ one ∈ earlier, one.2.procedure.canonical = procedure.canonical then
    Text.ofString "pattern " ++ entry.1.displayed ++
      Text.ofString " reuses canonical procedure " ++ procedure.canonical.displayed
  else
    Text.ofString "compiled pattern " ++ procedure.canonical.displayed ++
      Text.ofString " with " ++ Text.ofNat procedure.arity ++ Text.ofString " captures"

def announcementLines (earlier : List (Text × Compiled)) : List (Text × Compiled) → List Text
  | [] => []
  | entry :: entries =>
    announcementLine earlier entry :: announcementLines (earlier ++ [entry]) entries

/-- Every announcement is worth a line, traced or not. -/
theorem log_announcements (tracing : Bool) (earlier entries : List (Text × Compiled)) :
    Event.log tracing (announcements earlier entries) = announcementLines earlier entries := by
  induction entries generalizing earlier with
  | nil => rfl
  | cons entry entries ih =>
    have worded : (announcement earlier entry).message? tracing =
        some (announcementLine earlier entry) := by
      unfold announcement announcementLine
      dsimp only
      split
      · rfl
      · rfl
    rw [announcements, announcementLines, ← ih, Event.log, List.filterMap_cons_some worded]
    rfl

/-- The spelling that an event tells was compiled. -/
def compiledSpelling? : Event → Option Text
  | .patternCompiled canonical _ => some canonical
  | _ => none

/-- The log tells of every text that is kept, in the order in which they came. -/
structure Logged (cache : Cache) (events : List Event) : Prop where
  announced : events = announcements [] cache.byText.entries
  spellings : events.filterMap compiledSpelling? = cache.byCanonical.keys

section Steps

variable {history : List Entry} {events : List Event} {tree : Pattern} {compiled : Compiled}

theorem Logged.reuse (logged : Logged cache events) (filed : Filed cache history)
    (counters : Counters) (unknown : cache.byText.find? text = none)
    (read : parse text = .ok tree)
    (known : cache.byCanonical.find? tree.canonical = some compiled) :
    Logged { cache with byText := cache.byText.insert text compiled, counters := counters }
      (events ++ [.patternReused text tree.canonical]) where
  announced := by
    obtain ⟨canonical, -⟩ := filed.canonical_eq read known
    obtain ⟨first, -, under, -⟩ := filed.origin _ _ known
    have earlier : ∃ one ∈ cache.byText.entries,
        one.2.procedure.canonical = compiled.procedure.canonical :=
      ⟨(first, compiled), Table.mem_of_find? under, rfl⟩
    rw [Table.entries_insert unknown, announcements_concat, ← logged.announced, List.nil_append,
      announcement, if_pos earlier, canonical]
  spellings := by
    rw [List.filterMap_append, logged.spellings]
    exact List.append_nil _

theorem Logged.fresh (logged : Logged cache events) (filed : Filed cache history)
    (counters : Counters) {procedure : Procedure}
    (unknown : cache.byText.find? text = none)
    (new : cache.byCanonical.find? tree.canonical = none)
    (compiles : Procedure.ofTree tree = .ok procedure) :
    Logged { cache with
        byText := cache.byText.insert text ⟨cache.next, procedure⟩
        byCanonical := cache.byCanonical.insert tree.canonical ⟨cache.next, procedure⟩
        counters := counters
        next := cache.next + 1 }
      (events ++ [.patternCompiled tree.canonical procedure.arity]) where
  announced := by
    obtain ⟨canonical, -⟩ := Procedure.labels_ofTree compiles
    have first : ¬∃ one ∈ cache.byText.entries,
        one.2.procedure.canonical = procedure.canonical := by
      -- The procedure of an earlier text with this spelling would be kept under it.
      rintro ⟨one, member, same⟩
      obtain ⟨own, readOwn, under⟩ := filed.sound.text _ _ (filed.mem member)
      rw [← (filed.canonical_eq readOwn under).1, same, canonical, new] at under
      cases under
    rw [Table.entries_insert unknown, announcements_concat, ← logged.announced, List.nil_append,
      announcement, if_neg first, canonical]
  spellings := by
    rw [List.filterMap_append, logged.spellings, Table.keys, Table.keys, Table.entries_insert new,
      List.map_append]
    rfl

end Steps

/-! ## Sessions -/

theorem report_eq (reset : Bool) (cache : Cache) :
    report reset cache = ⟨{ cache with counters := if reset then .zero else cache.counters }, [],
      .ok ⟨cache.counters, cache.byText.size, cache.byCanonical.size, cache.enabled,
        cache.counters.hitRate⟩⟩ := by
  cases reset with
  | true => rfl
  | false => rfl

namespace Session

structure Sound (s : Session) : Prop where
  filed : Filed s.cache s.history
  counted : Counted s.cache s.history
  logged : Logged s.cache s.events

theorem sound_start : start.Sound where
  filed := filed_start
  counted := ⟨rfl, fun _ => rfl, fun _ => rfl⟩
  logged := ⟨rfl, rfl⟩

variable {s : Session}

/-- A use that changes neither the tables nor the log. -/
theorem Sound.quiet (sound : s.Sound) {counters : Counters} {entry : Entry}
    (known : ∀ text compiled, entry = .compiled text (.ok compiled) →
      s.cache.byText.find? text = some compiled)
    (counted : Counted { s.cache with counters := counters } (s.history ++ [entry])) :
    Sound ⟨{ s.cache with counters := counters }, s.events ++ [], s.history ++ [entry]⟩ where
  filed := sound.filed.quiet counters known
  counted := counted
  logged := by
    rw [List.append_nil]
    exact ⟨sound.logged.announced, sound.logged.spellings⟩

theorem Sound.compile (sound : s.Sound) (text : Text) : (s.use (.compile text)).Sound := by
  -- The numbers given to `Counted.step` are those of the spellings and of the texts that are entered.
  have compiling := compiling sound.filed.sound.enabled text
  unfold use
  dsimp only
  generalize Cache.compile text s.cache = ran at compiling
  cases compiling with
  | @hit compiled known =>
    apply sound.quiet
    · intro other found same
      cases same
      exact known
    · exact sound.counted.step 0 0 rfl (total_textHit _) rfl rfl rfl rfl
  | @unreadable error unknown unread =>
    apply sound.quiet
    · intro other found same
      cases same
    · exact sound.counted.step 0 0 rfl rfl rfl rfl rfl rfl
  | @reuse tree compiled unknown read known =>
    exact ⟨sound.filed.reuse _ unknown read known,
      sound.counted.step 0 1 rfl (total_canonicalHit _) rfl rfl (Nat.add_right_comm _ _ _)
        (Table.size_insert unknown),
      sound.logged.reuse sound.filed _ unknown read known⟩
  | @fresh tree procedure unknown read new compiles =>
    exact ⟨sound.filed.fresh _ unknown read new compiles,
      sound.counted.step 1 1 rfl rfl rfl (Table.size_insert new) rfl (Table.size_insert unknown),
      sound.logged.fresh sound.filed _ unknown new compiles⟩

/-- What holds of a session is kept by every use of the cache. -/
theorem sound_use (sound : s.Sound) (one : Use) : (s.use one).Sound := by
  cases one with
  | compile text => exact sound.compile text
  | lookup text =>
    exact ⟨sound.filed.quiet s.cache.counters nofun,
      sound.counted.step 0 0 rfl rfl rfl rfl rfl rfl, sound.logged⟩
  | contains text =>
    exact ⟨sound.filed.quiet s.cache.counters nofun,
      sound.counted.step 0 0 rfl rfl rfl rfl rfl rfl, sound.logged⟩
  | report reset =>
    unfold use
    dsimp only
    rw [report_eq]
    refine sound.quiet (fun _ _ same => nomatch same) ?_
    cases reset with
    | true => exact .reset
    | false => exact sound.counted.step 0 0 rfl rfl rfl rfl rfl rfl

theorem sound_after (uses : List Use) : (after uses).Sound := by
  induction uses using List.reverseRecOn with
  | nil => exact sound_start
  | append_singleton uses last ih =>
    rw [after, List.foldl_concat]
    exact sound_use ih last

/-- What is kept stays, through any uses. -/
theorem kept_use (one : Use) (sound : s.Sound) {key : Text} {compiled : Compiled} :
    (s.cache.byText.find? key = some compiled →
      (s.use one).cache.byText.find? key = some compiled) ∧
    (s.cache.byCanonical.find? key = some compiled →
      (s.use one).cache.byCanonical.find? key = some compiled) := by
  cases one with
  | compile text =>
    have compiling := compiling sound.filed.sound.enabled text
    unfold use
    dsimp only
    generalize Cache.compile text s.cache = ran at compiling
    cases compiling with
    | hit known => exact ⟨id, id⟩
    | unreadable unknown unread => exact ⟨id, id⟩
    | reuse unknown read known => exact ⟨Table.find?_insert_of_new unknown, id⟩
    | fresh unknown read new compiles =>
      exact ⟨Table.find?_insert_of_new unknown, Table.find?_insert_of_new new⟩
  | lookup text => exact ⟨id, id⟩
  | contains text => exact ⟨id, id⟩
  | report reset =>
    unfold use
    dsimp only
    rw [report_eq]
    exact ⟨id, id⟩

/-- What is kept at some time is kept at any later time. -/
theorem kept_after (uses more : List Use) (key : Text) (compiled : Compiled) :
    ((after uses).cache.find? key = some compiled →
      (after (uses ++ more)).cache.find? key = some compiled) ∧
    ((after uses).cache.byCanonical.find? key = some compiled →
      (after (uses ++ more)).cache.byCanonical.find? key = some compiled) := by
  induction more using List.reverseRecOn with
  | nil =>
    rw [List.append_nil]
    exact ⟨id, id⟩
  | append_singleton more last ih =>
    have sound := sound_after (uses ++ more)
    have step : after (uses ++ (more ++ [last])) = (after (uses ++ more)).use last := by
      rw [← List.append_assoc, after, List.foldl_concat, ← after]
    obtain ⟨texts, canonicals⟩ := kept_use last sound
    rw [step]
    exact ⟨fun found => texts (ih.1 found), fun found => canonicals (ih.2 found)⟩

/-- The tables, the reports and the log of a session tell one story, that of its history. -/
structure Consistent (s : Session) : Prop where
  /-- A text is kept from its first success on, with what this answered. -/
  kept : ∀ text compiled, s.cache.find? text = some compiled ↔
    .compiled text (.ok compiled) ∈ s.history
  contains : ∀ text, s.cache.contains text = true ↔
    ∃ compiled, .compiled text (.ok compiled) ∈ s.history
  /-- The entry of a text is that of its spelling. -/
  filed : ∀ text compiled, s.cache.find? text = some compiled →
    ∃ tree, parse text = .ok tree ∧ s.cache.byCanonical.find? tree.canonical = some compiled ∧
      compiled.procedure.canonical = tree.canonical ∧
      compiled.procedure.arity = tree.captureCount
  spelled : ∀ spelling compiled, s.cache.byCanonical.find? spelling = some compiled →
    ∃ text, s.cache.find? text = some compiled ∧ canonicalize text = .ok spelling
  /-- Two texts are answered with one procedure if they have one spelling, and only then. -/
  shared : ∀ text other one two, .compiled text (.ok one) ∈ s.history →
    .compiled other (.ok two) ∈ s.history →
    (one.number = two.number ↔ canonicalize text = canonicalize other) ∧
      (one.number = two.number → one = two)
  counted : ∀ reset, ∃ report : CacheReport,
    (Cache.report reset s.cache).outcome.result = .ok report ∧
      report.counters.total = s.sinceReset.countP (·.isSuccess) ∧
      ((∀ entry ∈ s.history, entry.isReset = false) →
        report.counters.compiles = report.canonicals ∧
        report.counters.canonicalHits + report.counters.compiles = report.texts)
  reported : ∀ reset report, (Cache.report reset s.cache).outcome.result = .ok report →
    report.texts = s.cache.byText.keys.length ∧ report.canonicals = s.cache.byCanonical.keys.length
  once : s.cache.byText.keys.Nodup ∧ s.cache.byCanonical.keys.Nodup
  /-- Every text that is kept was announced: that it compiled, or that it reuses what was. -/
  announced : s.events = announcements [] s.cache.byText.entries
  logged : ∀ tracing, Event.log tracing s.events = announcementLines [] s.cache.byText.entries
  compiled : s.events.filterMap compiledSpelling? = s.cache.byCanonical.keys

theorem Sound.consistent (sound : s.Sound) : s.Consistent where
  kept := sound.filed.succeeded
  contains text := by
    rw [Cache.contains, Table.contains, Option.isSome_iff_exists]
    exact exists_congr fun compiled => sound.filed.succeeded text compiled
  filed text compiled found := by
    obtain ⟨tree, read, known⟩ := sound.filed.sound.text text compiled found
    exact ⟨tree, read, known, sound.filed.canonical_eq read known⟩
  spelled spelling compiled found := by
    obtain ⟨text, tree, kept, read, same⟩ := sound.filed.origin spelling compiled found
    refine ⟨text, kept, ?_⟩
    rw [canonicalize, read, ← same]
    rfl
  shared text other one two first second := by
    rw [← sound.filed.succeeded] at first second
    obtain ⟨tree, read, known⟩ := sound.filed.sound.text text one first
    obtain ⟨otherTree, readOther, knownOther⟩ := sound.filed.sound.text other two second
    have same := sound.filed.number_eq_iff read readOther first second
    constructor
    · rw [same, canonicalize, canonicalize, read, readOther]
      exact ⟨congrArg Except.ok, Except.ok.inj⟩
    · intro equal
      rw [same.mp equal, knownOther] at known
      exact (Option.some.inj known).symm
  counted reset := by
    rw [report_eq]
    exact ⟨_, rfl, sound.counted.total,
      fun none => ⟨sound.counted.compiles none, sound.counted.texts none⟩⟩
  reported reset report answered := by
    rw [report_eq] at answered
    cases answered
    exact ⟨(List.length_map _).symm, (List.length_map _).symm⟩
  once := ⟨sound.filed.texts, sound.filed.canonicals⟩
  announced := sound.logged.announced
  logged tracing := by
    rw [sound.logged.announced]
    exact log_announcements tracing [] _
  compiled := sound.logged.spellings

/-- After any uses of a cache that is switched on, whether they succeed or fail, the tables, the
counters and the log agree with its history, and nothing that is kept is ever replaced. -/
theorem consistent_after (uses : List Use) : (after uses).Consistent ∧
    ∀ more key compiled,
      ((after uses).cache.find? key = some compiled →
        (after (uses ++ more)).cache.find? key = some compiled) ∧
      ((after uses).cache.byCanonical.find? key = some compiled →
        (after (uses ++ more)).cache.byCanonical.find? key = some compiled) := by
  constructor
  · exact (sound_after uses).consistent
  · exact kept_after uses

/-- Two spellings of one pattern have one procedure, and a text that cannot be read has none. -/
theorem consistent_after_spellings :
    let s := after [.compile (Text.ofString "x"), .compile (Text.ofString " x"),
      .compile (Text.ofString "(")]
    (∃ one two, .compiled (Text.ofString "x") (.ok one) ∈ s.history ∧
      .compiled (Text.ofString " x") (.ok two) ∈ s.history ∧ one = two) ∧
    s.cache.contains (Text.ofString "(") = false := by
  intro s
  obtain ⟨consistent, -⟩ := consistent_after [.compile (Text.ofString "x"),
    .compile (Text.ofString " x"), .compile (Text.ofString "(")]
  have first : s.cache.contains (Text.ofString "x") = true := by decide +kernel
  have second : s.cache.contains (Text.ofString " x") = true := by decide +kernel
  have third : s.cache.contains (Text.ofString "(") = false := by decide +kernel
  obtain ⟨one, compiled⟩ := (consistent.contains _).mp first
  obtain ⟨two, compiledOther⟩ := (consistent.contains _).mp second
  have same : canonicalize (Text.ofString "x") = canonicalize (Text.ofString " x") := rfl
  obtain ⟨number, equal⟩ := consistent.shared _ _ one two compiled compiledOther
  exact ⟨⟨one, two, compiled, compiledOther, equal (number.mpr same)⟩, third⟩

example :
    let counters := (after [.compile (Text.ofString "x"), .compile (Text.ofString " x"),
      .compile (Text.ofString "("), .compile (Text.ofString "x")]).cache.counters
    (counters.textHits, counters.canonicalHits, counters.compiles) = (1, 1, 1) := by
  decide +kernel

end Session

end Cache

end PatternDispatch
