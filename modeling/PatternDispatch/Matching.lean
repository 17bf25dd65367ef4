import PatternDispatch.Pattern
import PatternDispatch.Context

/-!
Running a pattern on a value. The answer is the list of captures in the order of their names in
the pattern, or nothing on a mismatch; the events are the hook calls made on the way, up to the
first part that does not match or fails. Patterns and values may be nested to any depth.
-/

namespace PatternDispatch

/-- The captures of a match, or nothing. -/
abbrev Match := Option (List Value)

namespace Matching

def mismatch : Traced Match := pure none

def captured (values : List Value) : Traced Match := pure (some values)

def test (holds : Bool) : Traced Match := pure (if holds then some [] else none)

/-- One part and then, if it matches, the other; the captures are joined in this order. -/
def both (first : Traced Match) (second : Unit → Traced Match) : Traced Match := do
  match ← first with
  | none => mismatch
  | some captures =>
    match ← second () with
    | none => mismatch
    | some others => captured (captures ++ others)

def hasRest (items : List Pattern) : Bool := items.any Pattern.isRest

/-- Whether a sequence of this length can match: without a rest it has as many elements as there
are items, with one it has enough for the others. -/
def lengthFits (items : List Pattern) (length : Nat) : Bool :=
  if hasRest items then items.length ≤ length + 1 else length == items.length

/-- The name under which an object item is looked up. -/
def fieldName? : Pattern → Option Text
  | .key name | .keyValue name _ | .binder name _ | .identifier name | .tag name
  | .tagArray name _ | .tagObject name _ | .extractor name | .extractorOf name _ => some name
  | _ => none

def declaredNames (items : List Pattern) : List Text := items.filterMap fieldName?

def isDeclared (names : List Text) (key : Value) : Bool :=
  match key.text? with
  | none => false
  | some text => names.contains text

/-- Whether the keys of a mapping fit: all declared names are there and, without a rest, no other
key is. -/
def keysFit (items : List Pattern) (entries : List (Value × Value)) : Bool :=
  let names := declaredNames items
  names.all (fun name => (Value.lookupText entries name).isSome) &&
    (hasRest items || entries.all fun entry => isDeclared names entry.1)

/-- The entries whose keys no item declares. -/
def undeclared (names : List Text) (entries : List (Value × Value)) : Value :=
  .map (entries.filter fun entry => !isDeclared names entry.1)

/-- Matches every element; the answer has the captures of each. -/
def each (run : Value → Traced Match) : List Value → Traced (Option (List (List Value)))
  | [] => pure (some [])
  | element :: elements => do
    match ← run element with
    | none => pure none
    | some captures =>
      match ← each run elements with
      | none => pure none
      | some others => pure (some (captures :: others))

/-- One list per capture slot, with what each row has in that slot. -/
def slotLists (count : Nat) (rows : List (List Value)) : List Value :=
  (List.range count).map fun slot => .list (rows.filterMap (·[slot]?))

/-- Captures collected over the elements of a span, one list per slot. -/
def collected (count : Nat) (rows : Traced (Option (List (List Value)))) : Traced Match := do
  match ← rows with
  | none => mismatch
  | some rows => captured (slotLists count rows)

/-- What the rest of a sequence captures: nothing, its span under a name, or what a pattern captures
in each element of the span. -/
def restCaptured (inner : Pattern) (span : Value)
    (rows : Unit → Traced (Option (List (List Value)))) : Traced Match :=
  match inner with
  | .wildcard => captured []
  | .identifier _ => captured [span]
  | inner => collected inner.captureCount (rows ())

/-- Goes on with the elements of a sequence whose length fits. -/
def overElements (items : List Pattern) (v : Value) (next : List Value → Traced Match) :
    Traced Match :=
  match v.elements? with
  | none => mismatch
  | some elements => if lengthFits items elements.length then next elements else mismatch

/-- Goes on with the entries of a mapping whose keys fit. -/
def overEntries (items : List Pattern) (v : Value) (next : List (Value × Value) → Traced Match) :
    Traced Match :=
  match v.entries? with
  | none => mismatch
  | some entries => if keysFit items entries then next entries else mismatch

/-- Goes on with the components of a value that a class name stands for. -/
def overComponents (holds : Bool) (components : Traced (Option Value))
    (next : Value → Traced Match) : Traced Match :=
  if holds then do
    match ← components with
    | none => mismatch
    | some found => next found
  else mismatch

/-- Goes on with what an extractor wraps. -/
def overExtracted (result : Traced Value) (next : Value → Traced Match) : Traced Match := do
  match ← result with
  | .pass extracted => next extracted
  | _ => mismatch

/-- Goes on with the value under a name, which a mapping whose keys fit always has. -/
def overEntry (entries : List (Value × Value)) (name : Text) (next : Value → Traced Match) :
    Traced Match :=
  match Value.lookupText entries name with
  | none => Traced.fail (.keyMissing name)
  | some value => next value

def literalTest (v : Value) (literal : Number) : Traced Match :=
  match v.numberEquals literal with
  | .ok holds => test holds
  | .error e => Traced.fail (.comparison e)

mutual

def run (ctx : Context) : Pattern → Value → Traced Match
  | .wildcard, _ => captured []
  | .null, v => test v.isNull
  | .undefined, v => test v.isUndefined
  | .boolean expected, v => test (v.isBool expected)
  | .number literal, v => literalTest v literal
  | .string text, v => test (v.text? == some text)
  | .identifier _, v => captured [v]
  | .binder _ inner, v => both (captured [v]) fun _ => run ctx inner v
  | .array items, v | .argumentList items, v => overElements items v (runItems ctx items v 0)
  | .object items, v => overEntries items v (runFields ctx (declaredNames items) items)
  | .tag name, v => test (ctx.typeMatches v name)
  | .tagArray name items, v =>
    overComponents (ctx.typeMatches v name) (ctx.positional v name) fun components =>
      overElements items components (runItems ctx items components 0)
  | .tagObject name items, v =>
    overComponents (ctx.typeMatches v name) (ctx.keyed v) fun components =>
      overEntries items components (runFields ctx (declaredNames items) items)
  | .extractor name, v => overExtracted (ctx.extractors.call name v) fun _ => captured []
  | .extractorOf name inner, v => overExtracted (ctx.extractors.call name v) (run ctx inner)
  | _, _ => mismatch

/-- Items against the elements from a position on. The rest takes what the items behind it do not
need. -/
def runItems (ctx : Context) : List Pattern → Value → Nat → List Value → Traced Match
  | [], _, _, _ => captured []
  | .rest inner :: items, whole, start, elements =>
    let count := elements.length - items.length
    both
      (restCaptured inner (whole.span start (start + count : Nat)) fun _ =>
        each (run ctx inner) (elements.take count))
      fun _ => runItems ctx items whole (start + count) (elements.drop count)
  | item :: items, whole, start, element :: elements =>
    both (run ctx item element) fun _ => runItems ctx items whole (start + 1) elements
  | _ :: _, _, _, [] => mismatch

/-- Object items against the entries of a mapping, with the names that all items declare. -/
def runFields (ctx : Context) (names : List Text) :
    List Pattern → List (Value × Value) → Traced Match
  | [], _ => captured []
  | .rest (.identifier _) :: items, entries =>
    both (captured [undeclared names entries]) fun _ => runFields ctx names items entries
  | .rest _ :: items, entries => runFields ctx names items entries
  | .key name :: items, entries =>
    both (overEntry entries name fun value => captured [value])
      fun _ => runFields ctx names items entries
  | .keyValue name inner :: items, entries | .binder name inner :: items, entries
  | .extractorOf name inner :: items, entries =>
    both (overEntry entries name (run ctx inner)) fun _ => runFields ctx names items entries
  | .tagArray name inner :: items, entries =>
    both (overEntry entries name fun v => overElements inner v (runItems ctx inner v 0))
      fun _ => runFields ctx names items entries
  | .tagObject name inner :: items, entries =>
    both (overEntry entries name fun v =>
        overEntries inner v (runFields ctx (declaredNames inner) inner))
      fun _ => runFields ctx names items entries
  | _ :: items, entries => runFields ctx names items entries

end

section Items

variable {ctx : Context} {items : List Pattern} {whole : Value} {start : Nat}

theorem runItems_rest {inner : Pattern} {elements : List Value} :
    runItems ctx (.rest inner :: items) whole start elements =
      both
        (restCaptured inner
          (whole.span start (start + (elements.length - items.length) : Nat)) fun _ =>
            each (run ctx inner) (elements.take (elements.length - items.length)))
        fun _ => runItems ctx items whole (start + (elements.length - items.length))
          (elements.drop (elements.length - items.length)) := by
  rw [runItems]

theorem runItems_item {item : Pattern} {element : Value} {elements : List Value}
    (notRest : item.isRest = false) :
    runItems ctx (item :: items) whole start (element :: elements) =
      both (run ctx item element) fun _ => runItems ctx items whole (start + 1) elements := by
  cases item <;> first | (rw [runItems]; intro inner same; cases same) | cases notRest

theorem runItems_short {item : Pattern} (notRest : item.isRest = false) :
    runItems ctx (item :: items) whole start [] = mismatch := by
  cases item <;> first | (rw [runItems]; intro inner same; cases same) | cases notRest

/-- A rest without a name takes nothing from a mapping. -/
theorem runFields_rest {names : List Text} {inner : Pattern} {entries : List (Value × Value)}
    (unnamed : ∀ name, inner ≠ .identifier name) :
    runFields ctx names (.rest inner :: items) entries = runFields ctx names items entries := by
  cases inner with
  | identifier name => exact absurd rfl (unnamed name)
  | _ => simp only [runFields]

end Items

end Matching

end PatternDispatch
