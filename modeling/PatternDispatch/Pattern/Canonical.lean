import PatternDispatch.Pattern
import PatternDispatch.Text.Quoted

/-!
The canonical spelling of a pattern: no blanks, double quotes, three dots before what a rest
holds, one spelling per number.
-/

namespace PatternDispatch.Pattern

def bracketed (opening closing : Char) (t : Text) : Text :=
  opening.toNat :: (t ++ [closing.toNat])

mutual

def canonical : Pattern → Text
  | wildcard => Text.ofString "_"
  | null => Text.ofString "null"
  | undefined => Text.ofString "undefined"
  | boolean value => Text.ofString (if value then "true" else "false")
  | number value => value.spelling
  | string value => value.quoted
  | identifier name => name
  | binder name inner => name ++ '@'.toNat :: inner.canonical
  | array items => bracketed '[' ']' (joined items)
  | rest wildcard => Text.ofString "..."
  | rest inner => Text.ofString "..." ++ inner.canonical
  | key name => name.quoted
  | keyValue name inner => name.quoted ++ ':'.toNat :: inner.canonical
  | object items => bracketed '{' '}' (joined items)
  | tag name => name
  | tagArray name items => name ++ bracketed '(' ')' (joined items)
  | tagObject name items => name ++ bracketed '{' '}' (joined items)
  | extractor name => '$'.toNat :: name
  | extractorOf name inner => '$'.toNat :: (name ++ bracketed '(' ')' inner.canonical)
  | argumentList items => joined items
  | blank => []

/-- The spellings with a comma between neighbours. -/
def joined : List Pattern → Text
  | [] => []
  | [item] => item.canonical
  | item :: items => item.canonical ++ ','.toNat :: joined items

end

end PatternDispatch.Pattern
