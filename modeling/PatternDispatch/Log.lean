import PatternDispatch.Traced

/-!
The log is the wording of those events that are worth a line: changes of the tables, compiled
patterns, new dispatchers and, while tracing, every alternative that was tried.
-/

namespace PatternDispatch

/-- The texts in brackets, separated by commas. -/
def Text.bracketed (items : List Text) : Text :=
  '['.toNat :: (List.intercalate (Text.ofString ", ") items ++ [']'.toNat])

namespace Event

private def line (s : String) : Text := Text.ofString s

/-- The line for an event, if it has one. -/
def message? (tracing : Bool) : Event → Option Text
  | alternativeTried position title matched =>
    if tracing then
      some (line "alternative " ++ Text.ofNat position ++ line " (" ++ title ++
        line (if matched then ") matched" else ") failed"))
    else none
  | extractorRegistered name => some (line "registered extractor " ++ name)
  | extractorUnregistered name => some (line "unregistered extractor " ++ name)
  | sumTypeRegistered name variants =>
    some (line "registered sum type " ++ name ++ line " with variants " ++
      Text.bracketed (variants.map Text.displayed))
  | patternCompiled canonical captures =>
    some (line "compiled pattern " ++ canonical.displayed ++ line " with " ++
      Text.ofNat captures ++ line " captures")
  | patternReused text canonical =>
    some (line "pattern " ++ text.displayed ++ line " reuses canonical procedure " ++
      canonical.displayed)
  | dispatcherBuilt alternatives =>
    some (line "dispatcher built with " ++ Text.ofNat alternatives ++ line " alternatives")
  | _ => none

/-- The log of events in their order. -/
def log (tracing : Bool) (events : List Event) : List Text := events.filterMap (message? tracing)

end Event

end PatternDispatch
