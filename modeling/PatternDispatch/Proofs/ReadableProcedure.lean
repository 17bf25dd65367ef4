import PatternDispatch.Procedure
import PatternDispatch.Proofs.ReadableTree

/-!
What is read from a text compiles. The checks that compiling makes are for trees built by hand: in
a readable tree every node stands where it can be matched, so no check finds a fault.
-/

namespace PatternDispatch

namespace Pattern

variable {items : List Pattern}

theorem itemsConcrete_iff : itemsConcrete items = true ↔ ∀ item ∈ items, item.isConcrete = true := by
  induction items with
  | nil => simp [itemsConcrete]
  | cons item items ih => simp [itemsConcrete, ih]

/-- A readable tree has no node without a kind. -/
theorem Readable.isConcrete {role : Role} {p : Pattern} (readable : Readable role p) :
    p.isConcrete = true := by
  induction readable with
  | array _ _ ih | object _ _ ih | tagArray _ _ _ ih | tagObject _ _ _ ih =>
    rw [Pattern.isConcrete, itemsConcrete_iff]
    exact ih
  | binder _ _ _ ih | extractorOf _ _ ih | rest _ _ ih | keyValue _ _ ih =>
    rw [Pattern.isConcrete]
    exact ih
  | element _ ih => exact ih
  | _ => rfl

/-- Whether compiling a tree in some place finds a fault in it. -/
def Faultless : Role → Pattern → Prop
  | .pattern, p => p.fault? = none
  | .item .sequence, .rest inner => inner.fault? = none
  | .item .fields, .key _ | .item .fields, .rest _ => True
  | .item .fields, .keyValue _ inner => inner.fault? = none
  | .item .fields, _ => False
  | .item .sequence, p => p.fault? = none

theorem itemFault?_none {passedRest : Bool}
    (faultless : ∀ item ∈ items, Faultless (.item .sequence) item)
    (rests : items.countP isRest ≤ if passedRest then 0 else 1) :
    itemFault? passedRest items = none := by
  induction items generalizing passedRest with
  | nil => rw [itemFault?]
  | cons item items ih =>
    have own := faultless item List.mem_cons_self
    have others := fun other member => faultless other (List.mem_cons_of_mem item member)
    cases isRest : item.isRest with
    | true =>
      rw [List.countP_cons_of_pos isRest] at rests
      cases passedRest with
      | true => rw [if_pos rfl] at rests; omega
      | false =>
        rw [if_neg Bool.false_ne_true] at rests
        have behind : itemFault? true items = none :=
          ih others (by rw [if_pos rfl]; omega)
        obtain ⟨inner, rfl⟩ := exists_rest isRest
        rw [itemFault?, if_neg Bool.false_ne_true]
        exact behind
    | false =>
      rw [List.countP_cons_of_neg (by rw [isRest]; exact Bool.false_ne_true)] at rests
      have behind := ih others rests
      cases item with
      | rest inner => cases isRest
      | _ =>
        rw [itemFault?, behind, Option.or_none]
        · exact own
        · intro inner same
          cases same

theorem restFault?_none (faultless : ∀ item ∈ items, Faultless (.item .sequence) item) :
    restFault? items = none := by
  induction items with
  | nil => rw [restFault?]
  | cons item items ih =>
    have behind := ih fun other member => faultless other (List.mem_cons_of_mem item member)
    cases item with
    | rest inner => exact faultless (.rest inner) List.mem_cons_self
    | _ =>
      rw [restFault?]
      · exact behind
      · intro inner same
        cases same

/-- A sequence of items without faults, in which the rest stands once, has no fault. -/
theorem sequenceFault?_none (faultless : ∀ item ∈ items, Faultless (.item .sequence) item)
    (rests : items.countP isRest ≤ 1) :
    (itemFault? false items).or (restFault? items) = none := by
  have besides : itemFault? false items = none := itemFault?_none faultless rests
  rw [besides, restFault?_none faultless, Option.or_none]

theorem fieldFaults?_none (faultless : ∀ item ∈ items, Faultless (.item .fields) item) :
    fieldFaults? items = none := by
  induction items with
  | nil => rw [fieldFaults?]
  | cons item items ih =>
    have own := faultless item List.mem_cons_self
    have behind := ih fun other member => faultless other (List.mem_cons_of_mem item member)
    cases item with
    | rest inner | key name =>
      rw [fieldFaults?]
      exact behind
    | keyValue name inner =>
      rw [fieldFaults?, behind, Option.or_none]
      exact own
    | _ => exact own.elim

/-- Object items without faults have none together. -/
theorem fieldsFault?_none (faultless : ∀ item ∈ items, Faultless (.item .fields) item) :
    (items.findSome? fieldFault?).or (fieldFaults? items) = none := by
  have named : items.findSome? fieldFault? = none := by
    rw [List.findSome?_eq_none_iff]
    intro item member
    have own := faultless item member
    cases item with
    | rest inner | key name | keyValue name inner => rfl
    | _ => exact own.elim
  rw [named, fieldFaults?_none faultless, Option.or_none]

theorem Readable.faultless {role : Role} {p : Pattern} (readable : Readable role p) :
    Faultless role p := by
  induction readable with
  | binder _ _ _ ih | extractorOf _ _ ih =>
    rw [Faultless, fault?]
    exact ih
  | array _ rests ih | tagArray _ _ rests ih =>
    rw [Faultless, fault?]
    exact sequenceFault?_none ih rests
  | object _ _ ih | tagObject _ _ _ ih =>
    rw [Faultless, fault?]
    exact fieldsFault?_none ih
  | @element p readable ih =>
    cases p with
    | rest => cases readable
    | _ => exact ih
  | @rest place inner _ _ ih =>
    cases place with
    | sequence => exact ih
    | fields => trivial
  | key => trivial
  | keyValue _ _ ih => exact ih
  | _ => rfl

end Pattern

/-- An argument list of readable items compiles, and its procedure has the items of the list. -/
theorem Procedure.ofTree_readable {items : List Pattern}
    (readable : Pattern.ReadableItems .sequence items) :
    ofTree (.argumentList items) =
      .ok ⟨(Pattern.argumentList items).canonical, (Pattern.argumentList items).captureCount,
        items⟩ := by
  have concrete : (Pattern.argumentList items).isConcrete = true := by
    rw [Pattern.isConcrete, Pattern.itemsConcrete_iff]
    exact fun item member => (readable.each item member).isConcrete
  have faultless : (Pattern.array items).fault? = none := by
    rw [Pattern.fault?]
    exact Pattern.sequenceFault?_none (fun item member => (readable.each item member).faultless)
      readable.oneRest
  rw [ofTree, if_pos concrete]
  simp only [Pattern.rootItems?, faultless]

/-- The procedure of a text that can be read, compiled afresh, runs the tree of the text. -/
theorem Procedure.run_ofTree {text : Text} {tree : Pattern} {p : Procedure}
    (read : Pattern.Parser.parse text = .ok tree) (compiles : ofTree tree = .ok p) (ctx : Context)
    (arguments : List Value) : p.run ctx arguments = Matching.run ctx tree (.tuple arguments) := by
  obtain ⟨items, rfl, readable⟩ := Grammar.readable_of_parse read
  rw [ofTree_readable readable] at compiles
  cases compiles
  rfl

theorem Procedure.exists_ofText {text : Text} {tree : Pattern}
    (read : Pattern.Parser.parse text = .ok tree) :
    ∃ p, ofText text = .ok p ∧ ofTree tree = .ok p := by
  obtain ⟨items, rfl, readable⟩ := Grammar.readable_of_parse read
  have compiles := ofTree_readable readable
  refine ⟨_, ?_, compiles⟩
  rw [ofText, read]
  dsimp only
  rw [compiles]

end PatternDispatch
