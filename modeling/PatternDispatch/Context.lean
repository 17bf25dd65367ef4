import PatternDispatch.Extractors
import PatternDispatch.SumTypes
import PatternDispatch.Value.Attribute
import PatternDispatch.Value.Call
import PatternDispatch.Value.Kind

/-!
What a pattern consults while it runs: the classes of values, the named extractors and the sum
types. It is one and the same for a whole run, and what it answers depends on nothing but what is
asked. A class is known by its name and counts for the classes in its lineage alone. A hook that is
missing is an answer of its own, not a failure.
-/

namespace PatternDispatch

structure Context where
  classes : ClassTable
  extractors : Extractors
  sumTypes? : Option SumTypes

namespace Context

def isInstance (ctx : Context) (v : Value) (className : Text) : Bool :=
  match v.class? ctx.classes with
  | none => false
  | some c => c.lineage.contains className

/-- Whether a value belongs to a variant of the named sum type. -/
def isVariant (ctx : Context) (v : Value) (name : Text) : Bool :=
  match ctx.sumTypes? with
  | none => false
  | some types => ((types.find? name).getD []).any (ctx.isInstance v)

/-- A class name in a pattern stands for a kind, for a type by its name or its second name, or for
a sum type. -/
def typeMatches (ctx : Context) (v : Value) (name : Text) : Bool :=
  Kind.ofTag? name == some (v.kind ctx.classes) || v.typeName == name ||
    ((v.class? ctx.classes).bind (·.secondName?)) == some name || ctx.isVariant v name

/-- The answer of a hook, in which null stands for no components. -/
def hookAnswer (ctx : Context) (hook : Hook) (v : Value) : Except Failure (Option Value) :=
  match v.applyHook ctx.classes hook with
  | .error failure => .error failure
  | .ok .null => .ok none
  | .ok components => .ok (some components)

/-- The positional components of a value under a class name: what its own hook answers, else the
slots of a variant, else the attributes that stand for components, else the sequence itself. -/
def positional (ctx : Context) (v : Value) (name : Text) : Traced (Option Value) :=
  match (v.class? ctx.classes).bind (·.positionalHook?) with
  | some hook => do
    Traced.note (.componentsAsked v)
    Traced.ofExcept (ctx.hookAnswer hook v)
  | none =>
    match ctx.sumTypes?, ctx.isVariant v name with
    | some types, true => Traced.ofExcept ((types.slots v).map some)
    | _, _ =>
      match matchArgs? v with
      | some names =>
        Traced.ofExcept ((v.getAttributes ctx.classes names).map fun items => some (.list items))
      | none => pure (if v.isSequence then some v else none)
where
  matchArgs? (v : Value) : Option (List Text) :=
    match v with
    | .pass _ => v.slotNames? ctx.classes
    | v => (v.class? ctx.classes).bind (·.matchArgs?)

/-- The fields that a data class object, or a wrapper, has by name. -/
def dataFields? (ctx : Context) (v : Value) : Option (List Text) :=
  match v with
  | .pass _ => v.slotNames? ctx.classes
  | v => (v.class? ctx.classes).bind (·.dataFields?)

/-- The fields method found on a value: one of its attributes shadows that of its class and is
called without an argument, and a class offers the method without an object to apply it to. -/
def asFields (ctx : Context) (v : Value) : Traced (Option Value) :=
  let method := Text.ofString "_asdict"
  match v, v.attributes.lookup method with
  | .classRef name _, _ =>
    match (ctx.classes.find? name).bind (·.asFields?) with
    | some (owner, _) => Traced.fail (.unboundMethod owner method)
    | none => pure none
  | _, some .null => pure none
  | _, some own => do
    Traced.note (.fieldsAsked v)
    Traced.ofExcept ((own.call ctx.classes []).map some)
  | _, none =>
    match (v.class? ctx.classes).bind (·.asFields?) with
    | none => pure none
    | some (_, found) => do
      Traced.note (.fieldsAsked v)
      match found with
      | .generated =>
        Traced.ofExcept ((v.fieldMap ctx.classes (v.attributes.map (·.1))).map some)
      | .hook run => Traced.ofExcept ((v.applyHook ctx.classes run).map some)

/-- The keyed components of a value: what its own hook answers, else the fields of a data class,
else what its fields method answers, else the mapping itself. -/
def keyed (ctx : Context) (v : Value) : Traced (Option Value) :=
  match (v.class? ctx.classes).bind (·.keyedHook?) with
  | some hook => do
    Traced.note (.entriesAsked v)
    Traced.ofExcept (ctx.hookAnswer hook v)
  | none =>
    match ctx.dataFields? v with
    | some names => Traced.ofExcept ((v.fieldMap ctx.classes names).map some)
    | none => do
      match ← ctx.asFields v with
      | some .null => pure none
      | some components => pure (some components)
      | none => pure (if v.isMapping then some v else none)

end Context

end PatternDispatch
