import Accessors.Spec.Basic
import Accessors.Value.Check
import Accessors.Value.Equal
import Accessors.Registry

/-!
# Bound instances

A class specification is bound into an instance: one stored value per property, and its
methods, each checked against the declared type of its property. Binding resolves every object
type name through a registry and fails on the first that does not resolve; it also fails on a
method of an unknown property and on a second method of one name. A sequence property starts as
an empty sequence, any other property as the missing value.

Calling a method by name checks that it exists and, unless the call is a privileged invocation,
that it is public. Then, by operation:

* `get` takes no argument and gives the stored value, a copy for sequences;
* `set` checks its argument as a whole value and stores it: null as the missing value, a
  sequence as a copy;
* `add` checks its argument as an element and appends it, turning a stored array or a value
  of another element type into a sequence of any values;
* `remove` drops the first equal element, `contains` tells whether there is one.

A value that is not a sequence where one is needed stops the call with a fault text, as does a
missing argument where its type is needed (`Outcome.panicked`).

Main statements: a call of an unknown method fails and changes nothing (`call_unknown`), and a
bound instance starts with the class it was bound from (`bind_class`).
-/

namespace Accessors

/-- **A bound method**: its specification and the checker of its property. -/
structure BoundMethod where
  spec : MethodSpec
  checker : Checker
  deriving Repr, Inhabited

/-- **An instance**: the class, the stored values by property, and the bound methods by
name. -/
structure Instance where
  cls : ClassSpec
  values : List (String × Value)
  methods : List (String × BoundMethod)
  deriving Repr, Inhabited

/-- **The outcome of a call**: a value, a failure (with the result a membership test still
gives), or a fault that stopped the call. -/
inductive Outcome where
  | returned (v : Value)
  | failed (e : Error) (result : Option Value)
  | panicked (msg : String)
  deriving Repr, Inhabited

/-- Sets the value of a key, replacing an earlier one. -/
def assocSet {α : Type} (xs : List (String × α)) (k : String) (v : α) : List (String × α) :=
  if xs.any (·.1 == k) then xs.map fun e => if e.1 == k then (k, v) else e else xs ++ [(k, v)]

/-! ### Sequences held by properties -/

namespace Value

/-- The fault text of an operation a value of some kind does not support. -/
def unsupported (operation : String) (v : Value) : String :=
  "reflect: call of " ++ operation ++ " on " ++ (v.typeOf.map VType.kindName).getD "zero" ++ " Value"

/-- **The items of a stored value** read as a sequence: the items of slices and arrays, the
bytes of texts; a fault for anything else. Maps, channels and pointers to arrays have a length
but no items by position: with none they read as empty, else the first item faults. -/
def itemsView (v : Value) : Except String (List Value) :=
  match v with
  | slice _ items _ => .ok (items.getD [])
  | array _ items => .ok items
  | str s | label s => .ok (s.toUTF8.toList.map fun b => int .uint8 b.toNat)
  | map entries _ =>
    if (entries.getD []).isEmpty then .ok [] else .error (unsupported "reflect.Value.Index" v)
  | chan _ cell =>
    if (cell.map (·.2)).getD 0 == 0 then .ok [] else .error (unsupported "reflect.Value.Index" v)
  | pointer (.array n _) _ =>
    if n == 0 then .ok [] else .error (unsupported "reflect.Value.Index" v)
  | pointer .. => .error "reflect: call of reflect.Value.Len on ptr to non-array Value"
  | _ => .error (unsupported "reflect.Value.Len" v)

/-- A copy of a sequence: slices keep their type, arrays become slices of any values. -/
def copySequence : Value → Value
  | slice e (some xs) _ => slice e (some xs) 0
  | array _ xs => slice .any (some xs) 0
  | v => v

/-- The position of the first element of a stored value equal to a value. -/
def position (seq v : Value) : Except String (Option Nat) :=
  match seq with
  | null => .ok none
  | _ => (itemsView seq).map (indexIn · v)

/-- **Appending** an element to a stored value. -/
def appendTo (seq v : Value) : Except String Value :=
  match seq with
  | null => .ok (slice .any (some [v]) 0)
  | _ =>
    match v.typeOf, seq.typeOf with
    | none, _ => .error "reflect: call of reflect.Value.Type on zero Value"
    | _, none => .error "reflect: call of reflect.Value.Type on zero Value"
    | some t, some st =>
      match st.elem? with
      | none => .error ("reflect: Elem of invalid type " ++ st.text)
      | some e =>
        if t.assignable e then
          match seq with
          | slice e' items _ => .ok (slice e' (some (items.getD [] ++ [v])) 0)
          | _ => .error (unsupported "unknown method" seq)
        else (itemsView seq).map fun xs => slice .any (some (xs ++ [v])) 0

/-- **Removing** the first element of a stored value equal to a value. -/
def removeFromStored (seq v : Value) : Except String Value := do
  match ← position seq v with
  | none => return seq
  | some i =>
    match seq with
    | slice e items _ => return slice e (some ((items.getD []).eraseIdx i)) 0
    | _ => throw "reflect.MakeSlice of non-slice type"

end Value

/-! ### Binding -/

/-- The checker of a declared type; object types need a resolved name. -/
def checkerFor (t : DeclaredType) (reg : Registry) : Except Error Checker :=
  if t.kind != .object && t.kind != .arrayOfObject then .ok ⟨t, none⟩
  else match reg.lookup t.element with
    | some r => .ok ⟨t, some r⟩
    | none => .error (Error.ofFault .unresolvedType t.elementDisplay)

/-- The checkers and starting values of properties, in order. -/
def bindProperties (c : ClassSpec) (reg : Registry) :
    List PropertySpec → List (String × Checker) → List (String × Value) →
    Except Error (List (String × Checker) × List (String × Value))
  | [], cs, vs => .ok (cs, vs)
  | p :: ps, cs, vs =>
    match checkerFor p.type reg with
    | .error e => .error (.wrapped s!"class {c.name} property {p.name}: {e.message}" e)
    | .ok ch =>
      let vs := if p.type.isCollection then assocSet vs p.name (.slice .any (some []) 0) else vs
      bindProperties c reg ps (assocSet cs p.name ch) vs

/-- The bound methods, in order. -/
def bindMethods (c : ClassSpec) (checkers : List (String × Checker)) :
    List MethodSpec → List (String × BoundMethod) → Except Error (List (String × BoundMethod))
  | [], bs => .ok bs
  | m :: ms, bs =>
    match checkers.lookup m.property with
    | none => .error (.plain s!"class {c.name} method {m.name}: unknown property {Text.quote m.property}")
    | some ch =>
      if bs.any (·.1 == m.name) then .error (.plain s!"class {c.name}: duplicate method {m.name}")
      else bindMethods c checkers ms (bs ++ [(m.name, ⟨m, ch⟩)])

/-- **Binding** a class through a registry. -/
def Instance.bind (c : ClassSpec) (reg : Registry) : Except Error Instance :=
  match bindProperties c reg c.properties [] [] with
  | .error e => .error e
  | .ok (checkers, values) =>
    match bindMethods c checkers c.methods [] with
    | .error e => .error e
    | .ok methods => .ok ⟨c, values, methods⟩

/-! ### Calling -/

namespace Instance

/-- The stored value of a property; the missing value when none was stored. -/
def valueOf (i : Instance) (prop : String) : Value := (i.values.lookup prop).getD .null

/-- The instance with a new stored value. -/
def store (i : Instance) (prop : String) (v : Value) : Instance :=
  { i with values := assocSet i.values prop v }

/-- The failure of a call with the wrong number of arguments. -/
def arityError (m : MethodSpec) (want got : Nat) : Error :=
  Error.ofFault .argumentCount s!"{m.name} expects {want}, got {got}"

/-- **Running a bound method** on arguments. -/
def run (i : Instance) (b : BoundMethod) (args : List Value) : Outcome × Instance :=
  let m := b.spec
  let prop := m.property
  let collection := b.checker.type.isCollection
  let current := i.valueOf prop
  let one (k : Value → Outcome × Instance) : Outcome × Instance :=
    match args with
    | [v] => k v
    | _ => (.failed (arityError m 1 args.length) none, i)
  match m.operation with
  | .get =>
    if args.isEmpty then (.returned (if collection then current.copySequence else current), i)
    else (.failed (arityError m 0 args.length) none, i)
  | .set => one fun v =>
    match b.checker.checkValue v with
    | .error e => (.failed e none, i)
    | .ok () =>
      let stored := if v.isNull then .null else if collection then v.copySequence else v
      (.returned .null, i.store prop stored)
  | .add => one fun v =>
    match b.checker.checkElement v with
    | .error e => (.failed e none, i)
    | .ok () =>
      match current.appendTo v with
      | .ok s => (.returned .null, i.store prop s)
      | .error msg => (.panicked msg, i)
  | .remove => one fun v =>
    match b.checker.checkElement v with
    | .error e => (.failed e none, i)
    | .ok () =>
      match current.removeFromStored v with
      | .ok s => (.returned .null, i.store prop s)
      | .error msg => (.panicked msg, i)
  | .contains =>
    match args with
    | [v] =>
      match b.checker.checkElement v with
      | .error e => (.failed e (some (.bool false)), i)
      | .ok () =>
        match current.position v with
        | .ok p => (.returned (.bool p.isSome), i)
        | .error msg => (.panicked msg, i)
    | _ => (.failed (arityError m 1 args.length) (some (.bool false)), i)
  | .unknown _ =>
    (.failed (Error.ofFault .unknownMethod s!"{m.name} has unsupported operation {m.operation.verb}") none, i)

/-- **Calling a method** by name: public methods only, unless `privileged`. -/
def call (i : Instance) (name : String) (args : List Value) (privileged : Bool) : Outcome × Instance :=
  match i.methods.lookup name with
  | none => (.failed (Error.ofFault .unknownMethod name) none, i)
  | some b =>
    if !privileged && b.spec.visibility != .publicAccess then
      (.failed (Error.ofFault .methodNotVisible s!"{name} is {b.spec.visibility.keyword}") none, i)
    else i.run b args

/-- The method specifications in class order. -/
def methodSpecs (i : Instance) : List MethodSpec := i.cls.methods

/-- A call of an unknown method fails and changes nothing. -/
theorem call_unknown (i : Instance) (name : String) (args : List Value) (privileged : Bool)
    (h : i.methods.lookup name = none) :
    i.call name args privileged = (.failed (Error.ofFault .unknownMethod name) none, i) := by
  simp [call, h]

/-- A bound instance holds the class it was bound from. -/
theorem bind_class (c : ClassSpec) (reg : Registry) (i : Instance) (h : bind c reg = .ok i) :
    i.cls = c := by
  unfold bind at h
  split at h
  · cases h
  · split at h
    · cases h
    · cases h
      rfl

end Instance
end Accessors
