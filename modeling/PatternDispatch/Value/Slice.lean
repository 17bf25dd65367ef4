import PatternDispatch.Value.Class

/-!
The part of a value between two positions. Only values with positions have one; what else is asked
for it refuses in its own way.
-/

namespace PatternDispatch.Value

def slice (v : Value) (start stop : Int) : Except Failure Value :=
  let between (items : List Value) : Except Failure Value :=
    .ok ((list items).span start stop)
  let refused : Except Failure Value :=
    .error (.misuse (.notSubscriptable v.qualifiedTypeName))
  match v.underlying with
  | str _ | list _ | tuple _ | namedTuple _ _ => .ok (v.span start stop)
  | array cells =>
    if cells.isScalar then
      .error (.raised (Text.ofString "IndexError")
        (Text.ofString "Too many indices: 0-dimensional array indexed with 1 regular index."))
    else .ok (v.span start stop)
  | map _ | mapping _ _ => .error (.misuse (.unhashable (Text.ofString "slice")))
  | classRef name _ => .error (.misuse (.classNotSubscriptable name))
  | foreign name items =>
    if name = Text.ofString "range" ∨ name = Text.ofString "bytes" then between items
    else if name = Text.ofString "deque" then .error (.misuse .notAPosition)
    else refused
  | _ => refused

end PatternDispatch.Value
