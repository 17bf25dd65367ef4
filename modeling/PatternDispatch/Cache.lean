import PatternDispatch.Action
import PatternDispatch.Procedure
import PatternDispatch.Table

/-!
Compiled patterns are kept under the text they were read from and under their canonical spelling,
so that texts which differ only in their spelling share one procedure. Entries are never replaced
or taken out. A cache that is switched off keeps nothing and only counts. It serves one caller at a
time, so nothing is locked.
-/

namespace PatternDispatch

/-- A compiled procedure, numbered so that one that is shared can be told from one that is equal. -/
structure Compiled where
  number : Nat
  procedure : Procedure

structure Counters where
  textHits : Nat
  canonicalHits : Nat
  compiles : Nat

structure Cache where
  enabled : Bool
  byText : Table Compiled
  byCanonical : Table Compiled
  counters : Counters
  /-- The number of the next procedure. -/
  next : Nat

/-- What is known of the use of a cache. -/
structure CacheReport where
  counters : Counters
  texts : Nat
  canonicals : Nat
  enabled : Bool
  hitRate : Binary64

def Counters.zero : Counters := ⟨0, 0, 0⟩

def Counters.hits (c : Counters) : Nat := c.textHits + c.canonicalHits

def Counters.total (c : Counters) : Nat := c.hits + c.compiles

/-- The share of hits, rounded once; without any use it is zero. -/
def Counters.hitRate (c : Counters) : Binary64 := Binary.ofRat .binary64 (c.hits / c.total)

namespace Cache

def empty (enabled : Bool) : Cache := ⟨enabled, .empty, .empty, .zero, 0⟩

def count (f : Counters → Counters) : Action Cache Unit :=
  Action.change fun cache => { cache with counters := f cache.counters }

def countTextHit : Action Cache Unit := count fun c => { c with textHits := c.textHits + 1 }

def countCanonicalHit : Action Cache Unit :=
  count fun c => { c with canonicalHits := c.canonicalHits + 1 }

def countCompile : Action Cache Unit := count fun c => { c with compiles := c.compiles + 1 }

/-- Gives a procedure the next number. -/
def number (procedure : Procedure) : Action Cache Compiled := do
  let cache ← Action.state
  Action.setState { cache with next := cache.next + 1 }
  pure ⟨cache.next, procedure⟩

/-- The procedure of a pattern that is not kept under its text yet. -/
def compileTree (text : Text) (tree : Pattern) : Action Cache Compiled := do
  let canonical := tree.canonical
  match (← Action.state).byCanonical.find? canonical with
  | some compiled =>
    countCanonicalHit
    Action.note (.patternReused text canonical)
    pure compiled
  | none =>
    match Procedure.ofTree tree with
    | .error error => Action.fail (.illFormed error)
    | .ok procedure =>
      let compiled ← number procedure
      Action.change fun cache =>
        { cache with byCanonical := cache.byCanonical.insert canonical compiled }
      countCompile
      Action.note (.patternCompiled canonical procedure.arity)
      pure compiled

/-- Compiles a text that is not kept yet, and keeps the procedure under it. -/
def compileText (text : Text) : Action Cache Compiled :=
  match Pattern.Parser.parse text with
  | .error error => Action.fail (.malformed error)
  | .ok tree => do
    let compiled ← compileTree text tree
    Action.change fun cache => { cache with byText := cache.byText.insert text compiled }
    pure compiled

/-- Compiles a text anew; the attempt counts whether it succeeds or not. -/
def compileUncached (text : Text) : Action Cache Compiled := do
  countCompile
  match Procedure.ofText text with
  | .error failure => Action.fail failure
  | .ok procedure => number procedure

def compile (text : Text) : Action Cache Compiled := do
  let cache ← Action.state
  if cache.enabled then
    match cache.byText.find? text with
    | some compiled =>
      countTextHit
      pure compiled
    | none => compileText text
  else compileUncached text

/-- The procedure kept under a text, which is not compiled if there is none. -/
def find? (cache : Cache) (text : Text) : Option Compiled := cache.byText.find? text

def contains (cache : Cache) (text : Text) : Bool := cache.byText.contains text

def size (cache : Cache) : Nat := cache.byCanonical.size

/-- What is known of the use of the cache since its counters were last reset. -/
def report (reset : Bool) : Action Cache CacheReport := do
  let cache ← Action.state
  if reset then count fun _ => .zero
  pure ⟨cache.counters, cache.byText.size, cache.byCanonical.size, cache.enabled,
    cache.counters.hitRate⟩

end Cache

end PatternDispatch
