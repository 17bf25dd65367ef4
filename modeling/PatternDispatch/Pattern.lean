import PatternDispatch.Number

/-!
Pattern trees. One type holds patterns, the rest elements and object items that may stand inside
them, and the argument list at the root; which of them may stand where is a separate predicate,
because trees can be built by hand.
-/

namespace PatternDispatch

inductive Pattern where
  | wildcard
  | null
  | undefined
  | boolean (value : Bool)
  | number (value : Number)
  | string (value : Text)
  | identifier (name : Text)
  | binder (name : Text) (inner : Pattern)
  | array (items : List Pattern)
  | rest (inner : Pattern)
  | key (name : Text)
  | keyValue (name : Text) (inner : Pattern)
  | object (items : List Pattern)
  /-- A class name alone. -/
  | tag (name : Text)
  /-- A class name over the positional components. -/
  | tagArray (name : Text) (items : List Pattern)
  /-- A class name over the keyed components. -/
  | tagObject (name : Text) (items : List Pattern)
  /-- An extractor whose result is not looked into. -/
  | extractor (name : Text)
  | extractorOf (name : Text) (inner : Pattern)
  | argumentList (items : List Pattern)
  /-- A node of no kind, which a tree built by hand may hold. -/
  | blank
deriving Repr, Inhabited

namespace Pattern

def isRest : Pattern → Bool
  | rest _ => true
  | _ => false

theorem exists_rest {p : Pattern} (isRest : p.isRest = true) : ∃ inner, p = rest inner := by
  cases p with
  | rest inner => exact ⟨inner, rfl⟩
  | _ => cases isRest

/-- The direct children. A class pattern with components has one: the array or object of them. -/
def children : Pattern → List Pattern
  | binder _ inner | rest inner | keyValue _ inner | extractorOf _ inner => [inner]
  | array items | object items | argumentList items => items
  | tagArray _ items => [array items]
  | tagObject _ items => [object items]
  | _ => []

/-- The word for the kind of a node. -/
def kind : Pattern → String
  | wildcard => "wildcard"
  | null => "null"
  | undefined => "undefined"
  | boolean _ => "boolean"
  | number _ => "number"
  | string _ => "string"
  | identifier _ => "identifier"
  | binder _ _ => "binder"
  | array _ => "array"
  | rest _ => "rest"
  | key _ => "key"
  | keyValue _ _ => "keyValue"
  | object _ => "object"
  | tag _ | tagArray _ _ | tagObject _ _ => "class"
  | extractor _ | extractorOf _ _ => "extractor"
  | argumentList _ => "argumentList"
  | blank => "node"

/-- The word for a node in reports about trees. -/
def nodeName : Pattern → String
  | wildcard => "Wildcard"
  | null => "NullLiteral"
  | undefined => "UndefinedLiteral"
  | boolean _ => "BooleanLiteral"
  | number _ => "NumberLiteral"
  | string _ => "StringLiteral"
  | identifier _ => "Identifier"
  | binder _ _ => "Binder"
  | array _ => "Array"
  | rest _ => "RestElement"
  | key _ => "Key"
  | keyValue _ _ => "KeyValue"
  | object _ => "Object"
  | tag _ | tagArray _ _ | tagObject _ _ => "ClassPattern"
  | extractor _ | extractorOf _ _ => "Extractor"
  | argumentList _ => "ArgumentList"
  | blank => "Node"

mutual

/-- The kinds of a tree in preorder. -/
def kinds : Pattern → List String
  | p@(binder _ inner) | p@(rest inner) | p@(keyValue _ inner) | p@(extractorOf _ inner) =>
    p.kind :: inner.kinds
  | p@(array items) | p@(object items) | p@(argumentList items) => p.kind :: itemKinds items
  | tagArray _ items => "class" :: "array" :: itemKinds items
  | tagObject _ items => "class" :: "object" :: itemKinds items
  | p => [p.kind]

def itemKinds : List Pattern → List String
  | [] => []
  | item :: items => item.kinds ++ itemKinds items

end

mutual

/-- How many values a pattern captures when it matches. -/
def captureCount : Pattern → Nat
  | identifier _ | key _ => 1
  | binder _ inner => 1 + inner.captureCount
  | rest inner | keyValue _ inner | extractorOf _ inner => inner.captureCount
  | array items | object items | argumentList items | tagArray _ items | tagObject _ items =>
    itemCaptureCount items
  | _ => 0

def itemCaptureCount : List Pattern → Nat
  | [] => 0
  | item :: items => item.captureCount + itemCaptureCount items

end

mutual

/-- A tree without a node of no kind. -/
def isConcrete : Pattern → Bool
  | binder _ inner | rest inner | keyValue _ inner | extractorOf _ inner => inner.isConcrete
  | array items | object items | argumentList items | tagArray _ items | tagObject _ items =>
    itemsConcrete items
  | blank => false
  | _ => true

def itemsConcrete : List Pattern → Bool
  | [] => true
  | item :: items => item.isConcrete && itemsConcrete items

end

end Pattern

end PatternDispatch
