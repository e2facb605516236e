import Accessors.Yaml.Compose
import Accessors.Number.Decimal
import Accessors.Text.Quote

/-!
# Reading YAML: values

The last stage of reading a YAML document turns its nodes into values.

* **Scalars** without a tag and written plain get their type from their text: the words of
  YAML 1.1 for booleans (`yes`, `on`, `true` and their opposites, in three cases each) and null
  (`~`, `null`, the empty text), the special floats `.inf`, `-.inf` and `.nan`, integers in
  decimal, octal (a leading `0` or `0o`), hexadecimal and binary with `_` between digits,
  decimal floats, and text otherwise. A number too large for 64 bits is tried as an unsigned
  integer and then as a float. Quoted scalars are text. A tag of the core schema asks for its
  type, and text that is not of it is an error.
* **Sequences** are lists, **mappings** are lists of pairs with keys that are neither lists nor
  mappings. A later pair replaces an earlier one with an equal key; in strict reading it is
  recorded as an error of its line instead, and all such errors are reported together.
* A key `<<` **merges** a mapping, or a list of mappings, into the mapping it is in.
* An **alias** reads as its anchored node; a node that contains an alias of itself is an error,
  and so is a document that expands aliases far more than it reads nodes.

Main statements: a leading zero makes an integer octal (`parseSigned_octal`).
-/

namespace Accessors.Yaml

/-- **A value read from YAML**: null, a boolean, an integer that fits 64 signed bits, an
unsigned integer beyond that, a float, a text, a list, or a mapping of pairs. -/
inductive Item where
  | null
  | bool (b : Bool)
  | int (n : Int)
  | uint (n : Nat)
  | float (x : Float)
  | str (s : String)
  | seq (items : List Item)
  | map (entries : List (Item × Item))
  deriving Repr, Inhabited

/-! ### Tags -/

/-- The prefix of the tags of the core schema. -/
def tagPrefix : String := "tag:yaml.org,2002:"

/-- The tag of texts. -/
def strTag : String := tagPrefix ++ "str"

/-- The tag of booleans. -/
def boolTag : String := tagPrefix ++ "bool"

/-- The tag of integers. -/
def intTag : String := tagPrefix ++ "int"

/-- The tag of floats. -/
def floatTag : String := tagPrefix ++ "float"

/-- The tag of null. -/
def nullTag : String := tagPrefix ++ "null"

/-- The tag of timestamps. -/
def timestampTag : String := tagPrefix ++ "timestamp"

/-- The tag of binary data. -/
def binaryTag : String := tagPrefix ++ "binary"

/-- The tag of merge keys. -/
def mergeTag : String := tagPrefix ++ "merge"

/-- A tag in its short form: `!!name` for the core schema. -/
def shortTag (tag : String) : String :=
  if tag.startsWith tagPrefix then "!!" ++ String.ofList (tag.toList.drop tagPrefix.length) else tag

/-- The tags whose values are resolved from their text. -/
def isResolvable (tag : String) : Bool :=
  tag == "" || tag == strTag || tag == boolTag || tag == intTag || tag == floatTag || tag == timestampTag

/-! ### Numbers -/

/-- The value of an ASCII digit in bases up to 16. -/
def digitIn (c : Char) : Option Nat :=
  if c.isDigit then some (c.toNat - 48)
  else if 'a' ≤ c && c ≤ 'f' then some (c.toNat - 87)
  else if 'A' ≤ c && c ≤ 'F' then some (c.toNat - 55)
  else none

/-- The number written by digits of a base, when all are digits of it. -/
def digitsValue (base : Nat) (cs : List Char) : Option Nat :=
  cs.foldlM (fun acc c => match digitIn c with
    | some d => if d < base then some (acc * base + d) else none
    | none => none) 0

/-- **An unsigned integer** with its base given by a prefix: `0b`, `0o` and `0x` (in either
case), octal after a bare leading `0`, decimal otherwise. It must fit 64 bits. -/
def parseUnsigned (cs : List Char) : Option Nat := do
  let n ← match cs with
    | [] => none
    | '0' :: rest =>
      match rest with
      | c :: more =>
        if more.isEmpty then digitsValue 8 rest
        else if c == 'b' || c == 'B' then digitsValue 2 more
        else if c == 'o' || c == 'O' then digitsValue 8 more
        else if c == 'x' || c == 'X' then digitsValue 16 more
        else digitsValue 8 rest
      | [] => some 0
    | _ => digitsValue 10 cs
  if n < Nat.pow 2 64 then some n else none

/-- **A signed integer**: an optional sign, then an unsigned integer; it must fit 64 bits. -/
def parseSigned (cs : List Char) : Option Int :=
  let (neg, rest) := match cs with
    | '+' :: r => (false, r)
    | '-' :: r => (true, r)
    | r => (false, r)
  match parseUnsigned rest with
  | some n =>
    if neg then (if n ≤ Nat.pow 2 63 then some (-(n : Int)) else none)
    else if n < Nat.pow 2 63 then some n else none
  | none => none

/-- **A decimal float**, when it is one and its magnitude is below the largest float. -/
def parseDecimalFloat (s : String) : Option Float := do
  let d ← Number.DecimalLiteral.parse? s
  if d.digits == 0 then return (if d.negative then -0.0 else 0.0)
  let lead := d.exp + (Nat.toDigits 10 d.digits).length - 1
  if lead > 310 then none
  if lead < -400 then return (if d.negative then -0.0 else 0.0)
  let x := d.toFloat
  if x.isInf then none else return x

/-- Whether a text is a decimal float in the form YAML resolves: a sign, digits with an optional
fraction or a fraction alone, and an optional exponent. -/
def isYamlFloat (s : String) : Bool := (Number.DecimalLiteral.parse? s).isSome

/-! ### Timestamps -/

/-- Digits at the front, at least one and at most `most`, with their value. -/
def takeNumber (cs : List Char) (most : Nat) : Option (Nat × List Char) :=
  let ds := (cs.takeWhile Char.isDigit).take most
  if ds.isEmpty then none else some ((digitsValue 10 ds).getD 0, cs.drop ds.length)

/-- **Whether a text is a timestamp**: a date `YYYY-M-D`, alone or followed by `T`, `t` or a blank
and a time `H:M:S` with an optional fraction, and after `T` or `t` a zone `Z` or `±HH:MM`. -/
def isTimestamp (s : String) : Bool := Id.run do
  let cs := Text.chars s
  if (cs.takeWhile Char.isDigit).length != 4 then return false
  let '-' :: cs := cs.drop 4 | return false
  let some (m, cs) := takeNumber cs 2 | return false
  let '-' :: cs := cs | return false
  let some (d, cs) := takeNumber cs 2 | return false
  if m < 1 || m > 12 || d < 1 || d > 31 then return false
  match cs with
  | [] => return true
  | sep :: cs =>
    if sep != 'T' && sep != 't' && sep != ' ' then return false
    let some (h, cs) := takeNumber cs 2 | return false
    let ':' :: cs := cs | return false
    let some (mi, cs) := takeNumber cs 2 | return false
    let ':' :: cs := cs | return false
    let some (se, cs) := takeNumber cs 2 | return false
    if h > 23 || mi > 59 || se > 59 then return false
    let cs := match cs with
      | '.' :: rest => rest.dropWhile Char.isDigit
      | _ => cs
    if sep == ' ' then return cs.isEmpty
    match cs with
    | ['Z'] => return true
    | [c, a, b, ':', e, f] =>
      return (c == '+' || c == '-') && a.isDigit && b.isDigit && e.isDigit && f.isDigit
    | _ => return false

/-! ### Resolving scalars -/

/-- The scalars whose text alone gives their value. -/
def resolveWords : List (String × String × Item) :=
  (["y", "Y", "yes", "Yes", "YES", "true", "True", "TRUE", "on", "On", "ON"].map fun w => (w, boolTag, .bool true)) ++
  (["n", "N", "no", "No", "NO", "false", "False", "FALSE", "off", "Off", "OFF"].map fun w => (w, boolTag, .bool false)) ++
  (["", "~", "null", "Null", "NULL"].map fun w => (w, nullTag, .null)) ++
  (["+.inf", "+.Inf", "+.INF", ".inf", ".Inf", ".INF"].map fun w => (w, floatTag, .float (1.0 / 0.0))) ++
  (["-.inf", "-.Inf", "-.INF"].map fun w => (w, floatTag, .float (-1.0 / 0.0))) ++
  ([".nan", ".NaN", ".NAN"].map fun w => (w, floatTag, .float (0.0 / 0.0)))

/-- What the first character of a text says about its type: `N` for the empty text, `M` for
the start of a word, `.` for a float, `D` for a digit, `S` for a sign, and nothing otherwise. -/
def resolveHint (s : String) : Option Char :=
  match Text.chars s with
  | [] => some 'N'
  | c :: _ =>
    if c == '+' || c == '-' then some 'S'
    else if c.isDigit then some 'D'
    else if (Text.chars "yYnNtTfFoO~").contains c then some 'M'
    else if c == '.' then some '.'
    else none

/-- **The tag and value of a scalar text** resolved under a tag (empty for none). -/
def resolveText (tag s : String) : String × Item := Id.run do
  let some h := resolveHint s | return (strTag, .str s)
  if tag == strTag || tag == binaryTag then return (strTag, .str s)
  if let some (_, t, v) := resolveWords.find? (·.1 == s) then return (t, v)
  if h == '.' then
    match parseDecimalFloat s with
    | some x => return (floatTag, .float x)
    | none => return (strTag, .str s)
  if h == 'D' || h == 'S' then
    if (tag == "" || tag == timestampTag) && isTimestamp s then return (timestampTag, .str s)
    let plain := (Text.chars s).filter (· != '_')
    if let some n := parseSigned plain then return (intTag, .int n)
    if let some n := parseUnsigned plain then return (intTag, .uint n)
    if isYamlFloat (String.ofList plain) then
      if let some x := parseDecimalFloat (String.ofList plain) then return (floatTag, .float x)
  return (strTag, .str s)

/-- **Resolves a scalar** with a tag: the tag of the core schema must agree with the value, except
that an integer may be read as a float. -/
def resolveScalar (tag s : String) : Except String Item :=
  if !isResolvable tag then .ok (.str s)
  else
    let (rtag, v) := resolveText tag s
    if tag == "" || tag == rtag || tag == strTag then .ok v
    else if tag == floatTag && rtag == intTag then
      match v with
      | .int n => .ok (.float (Float.ofInt n))
      | .uint n => .ok (.float (Float.ofNat n))
      | _ => .ok v
    else .error ("yaml: cannot decode " ++ shortTag rtag ++ " `" ++ s ++ "` as a " ++ shortTag tag)

/-- The value of a plain scalar without a tag. -/
def resolvePlain (s : String) : Item := (resolveText "" s).2

/-! ### Keys -/

/-- **Whether two keys are equal** as values of their types: floats compare as numbers (so a
NaN key equals nothing), values of different types are different. -/
def Item.sameKey : Item → Item → Bool
  | .null, .null => true
  | .bool a, .bool b => a == b
  | .int a, .int b => a == b
  | .uint a, .uint b => a == b
  | .float a, .float b => a == b
  | .str a, .str b => a == b
  | _, _ => false

mutual
/-- **A value in the syntax of its type**, as error messages show keys. -/
def Item.goSyntax : Item → String
  | .null => "<nil>"
  | .bool b => if b then "true" else "false"
  | .int n => toString n
  | .uint n => "0x" ++ Text.hexDigits n
  | .float x => Number.floatText x
  | .str s => Text.quote s
  | .seq items => "[]interface \x7b\x7d\x7b" ++ ", ".intercalate (Item.elemSyntaxes items) ++ "\x7d"
  | .map entries => "map[interface \x7b\x7d]interface \x7b\x7d\x7b" ++
      ", ".intercalate (Item.entrySyntaxes entries) ++ "\x7d"

/-- A value inside a collection: null as a typed nil. -/
def Item.elemSyntax : Item → String
  | .null => "interface \x7b\x7d(nil)"
  | x => x.goSyntax

/-- Values inside a collection. -/
def Item.elemSyntaxes : List Item → List String
  | [] => []
  | x :: rest => x.elemSyntax :: Item.elemSyntaxes rest

/-- The pairs of a mapping inside a collection. -/
def Item.entrySyntaxes : List (Item × Item) → List String
  | [] => []
  | (k, v) :: rest => (k.elemSyntax ++ ":" ++ v.elemSyntax) :: Item.entrySyntaxes rest
end

/-! ### Decoding nodes -/

/-- The state of decoding: the recorded errors of strict reading, and the counts of nodes read
and of nodes read inside aliases, with the depth of aliases being expanded. -/
structure DecodeState where
  errors : Array String
  decodeCount : Nat
  aliasCount : Nat
  aliasDepth : Nat

/-- Decoding, which may stop with a message. -/
abbrev DecodeM := StateT DecodeState (Except String)

/-- **Counts a node read**, stopping a document that expands aliases far more than it reads
nodes: over a hundred nodes from aliases, over a thousand read, and nearly all from aliases. -/
def countNode : DecodeM Unit := do
  let s ← get
  let s := { s with decodeCount := s.decodeCount + 1,
                    aliasCount := s.aliasCount + (if s.aliasDepth > 0 then 1 else 0) }
  set s
  if s.aliasCount > 100 && s.decodeCount > 1000 then
    let allowed : Float :=
      if s.decodeCount ≤ 400000 then 0.99
      else if s.decodeCount ≥ 4000000 then 0.10
      else 0.99 - 0.89 * (Float.ofNat (s.decodeCount - 400000) / 3600000.0)
    if Float.ofNat s.aliasCount / Float.ofNat s.decodeCount > allowed then
      throw "yaml: document contains excessive aliasing"

/-- Whether a node is the merge key `<<`. -/
def Node.isMerge : Node → Bool
  | .scalar v tag implicit _ => v == "<<" && (implicit || tag == mergeTag)
  | _ => false

/-- The message of a merge of something other than mappings. -/
def mergeProblem : String := "yaml: map merge requires map or sequence of maps as the value"

/-- Whether a node is a mapping, or an alias of one. -/
def Node.isMappingIn (anchors : Array Node) : Node → Bool
  | .mapping .. => true
  | .alias _ i _ => match anchors.getD i default with
    | .mapping .. => true
    | _ => false
  | _ => false

/-- Whether a node is an alias. -/
def Node.isAlias : Node → Bool
  | .alias .. => true
  | _ => false

/-- **Sets a pair** of a mapping being read: a key already present is an error of the value's
line in strict reading, and is replaced otherwise. -/
def setEntry (strict : Bool) (valueLine : Nat) (acc : List (Item × Item)) (k v : Item) :
    DecodeM (List (Item × Item)) := do
  if acc.any (fun (k', _) => k'.sameKey k) then
    if strict then
      let msg := "line " ++ toString (valueLine + 1) ++ ": key " ++ k.goSyntax ++ " already set in map"
      modify fun s => { s with errors := s.errors.push msg }
      return acc
    return acc.map fun (k', v') => if k'.sameKey k then (k', v) else (k', v')
  return acc ++ [(k, v)]

/-- **Reads the pairs of a mapping** into the pairs read so far, merging at `<<` keys: keys and
values are read by `node`, the value of a merge key is merged by `merge`. -/
def decodePairsWith (strict : Bool) (node : Node → DecodeM Item)
    (merge : Node → List (Item × Item) → DecodeM (List (Item × Item))) :
    List (Node × Node) → List (Item × Item) → DecodeM (List (Item × Item))
  | [], acc => return acc
  | (k, v) :: rest, acc => do
    if k.isMerge then
      let acc ← merge v acc
      decodePairsWith strict node merge rest acc
    else
      let key ← node k
      match key with
      | .seq _ | .map _ => throw ("yaml: invalid map key: " ++ key.goSyntax)
      | _ => pure ()
      let value ← node v
      let acc ← setEntry strict v.line acc key value
      decodePairsWith strict node merge rest acc

/-- **Merges the mappings of a list**, in the order given: an alias by `onAlias`, the pairs of a
mapping by `onPairs`. -/
def mergeListWith (anchors : Array Node)
    (onAlias : String → Nat → List (Item × Item) → DecodeM (List (Item × Item)))
    (onPairs : List (Node × Node) → List (Item × Item) → DecodeM (List (Item × Item))) :
    List Node → List (Item × Item) → DecodeM (List (Item × Item))
  | [], acc => return acc
  | n :: rest, acc => do
    if !n.isMappingIn anchors then throw mergeProblem
    let acc ← match n with
      | .alias name i _ => onAlias name i acc
      | .mapping ps _ => do
        countNode
        onPairs ps acc
      | _ => throw mergeProblem
    mergeListWith anchors onAlias onPairs rest acc

mutual

/-- **Reads a node**; `expanding` holds the anchors whose aliases are being read. Every node read
takes one unit of fuel, and so does every merge. -/
def decodeNode (anchors : Array Node) (strict : Bool) : Nat → List Nat → Node → DecodeM Item
  | 0, _, _ => throw "yaml: exceeded max depth of 10000"
  | fuel + 1, expanding, node => do
    countNode
    match node with
    | .scalar v tag implicit _ =>
      if tag == "" && !implicit then return .str v
      match resolveScalar tag v with
      | .ok x => return x
      | .error e => throw e
    | .sequence items _ => return .seq (← items.mapM (decodeNode anchors strict fuel expanding))
    | .mapping pairs _ =>
      return .map (← decodePairsWith strict (decodeNode anchors strict fuel expanding)
        (mergeInto anchors strict fuel expanding) pairs [])
    | .alias name i _ =>
      if expanding.contains i then throw ("yaml: anchor '" ++ name ++ "' value contains itself")
      modify fun s => { s with aliasDepth := s.aliasDepth + 1 }
      let x ← decodeNode anchors strict fuel (i :: expanding) (anchors.getD i default)
      modify fun s => { s with aliasDepth := s.aliasDepth - 1 }
      return x

/-- **Merges the value of a `<<` key**: a mapping, an alias of one, or a list of those, later
ones first so that earlier ones win. -/
def mergeInto (anchors : Array Node) (strict : Bool) :
    Nat → List Nat → Node → List (Item × Item) → DecodeM (List (Item × Item))
  | 0, _, _, _ => throw "yaml: exceeded max depth of 10000"
  | fuel + 1, expanding, v, acc => do
    match v with
    | .mapping pairs _ =>
      countNode
      decodePairsWith strict (decodeNode anchors strict fuel expanding)
        (mergeInto anchors strict fuel expanding) pairs acc
    | .alias name i _ =>
      if !v.isMappingIn anchors then throw mergeProblem
      mergeAlias anchors strict fuel expanding name i acc
    | .sequence items _ =>
      mergeListWith anchors (mergeAlias anchors strict fuel expanding)
        (decodePairsWith strict (decodeNode anchors strict fuel expanding)
          (mergeInto anchors strict fuel expanding)) items.reverse acc
    | _ => throw mergeProblem

/-- Merges the mapping of an alias. -/
def mergeAlias (anchors : Array Node) (strict : Bool) :
    Nat → List Nat → String → Nat → List (Item × Item) → DecodeM (List (Item × Item))
  | 0, _, _, _, _ => throw "yaml: exceeded max depth of 10000"
  | fuel + 1, expanding, name, i, acc => do
    countNode
    if expanding.contains i then throw ("yaml: anchor '" ++ name ++ "' value contains itself")
    modify fun s => { s with aliasDepth := s.aliasDepth + 1 }
    let acc ← match anchors.getD i default with
      | .mapping pairs _ => do
        countNode
        decodePairsWith strict (decodeNode anchors strict fuel (i :: expanding))
          (mergeInto anchors strict fuel (i :: expanding)) pairs acc
      | _ => throw mergeProblem
    modify fun s => { s with aliasDepth := s.aliasDepth - 1 }
    return acc

end

/-- **Reads a YAML text** into a value, null for an empty stream; strictly when `strict`, where
repeated keys are errors reported together after reading. -/
def readYaml (text : String) (strict : Bool) : Except String Item := do
  let doc ← compose text
  match doc.root with
  | none => return .null
  | some root =>
    let (x, s) ← (do countNode; decodeNode doc.anchors strict maxDepth [] root).run ⟨#[], 0, 0, 0⟩
    if s.errors.isEmpty then return x
    throw ("yaml: unmarshal errors:\n  " ++ "\n  ".intercalate s.errors.toList)

/-- A leading zero makes an integer octal, and a sign applies to it. -/
theorem parseSigned_octal : parseSigned ['-', '0', '1', '0'] = some (-8) := by
  decide

end Accessors.Yaml
