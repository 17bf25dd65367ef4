import PatternDispatch.Text.UppercaseTable

/-! The upper case of a text, letter by letter. -/

namespace PatternDispatch

namespace Character

def uppercase (c : CodePoint) : Text :=
  match uppercaseSequences.lookup c with
  | some letters => letters
  | none =>
    match uppercaseRuns.find? fun (first, last, step, _) =>
      first ≤ c && c ≤ last && (c - first) % step == 0 with
    | some (_, _, _, way) => [(c + way : Int).toNat]
    | none => [c]

end Character

def Text.uppercase (t : Text) : Text := t.flatMap Character.uppercase

end PatternDispatch
