import Accessors.Yaml.Scanner

/-!
# Reading YAML: the node tree

The second stage of reading a YAML document builds its tree of nodes from the tokens:

* a node is a scalar, a sequence or a mapping, possibly with an anchor and a tag in front;
* block collections are delimited by their start and `blockEnd` tokens, and a sequence written
  as the value of a mapping key needs no indentation of its own;
* flow collections are written in brackets and braces; an entry `a: b` of a flow sequence is a
  mapping of one pair;
* an empty key or value, or a node that is only an anchor or tag, is an empty plain scalar;
* an alias names the most recent node anchored with its name, which must come before it;
* tags are written with the handles of the document's `%TAG` directives, or `!` and `!!`.

Only the first document of a stream is read; what follows its first token after the document
is never looked at.

A syntax error is a problem of the parser, in the words YAML readers traditionally use, with the
place of the offending token. Every production is a total function: the depth of nesting is
bounded, and every loop takes a token per round.

Main statements: every node knows its line (`Node.line_scalar`).
-/

namespace Accessors.Yaml

/-- **A node** of a document: a scalar with its tag (empty when none was written) and whether its
type is left to the resolver; a sequence; a mapping of pairs in document order; or an alias of
the anchored node of an index. Each carries the line it starts on, from 0. -/
inductive Node where
  | scalar (value tag : String) (implicit : Bool) (line : Nat)
  | sequence (items : List Node) (line : Nat)
  | mapping (pairs : List (Node × Node)) (line : Nat)
  | alias (name : String) (target : Nat) (line : Nat)
  deriving Repr, Inhabited

/-- The line a node starts on. -/
def Node.line : Node → Nat
  | .scalar _ _ _ l | .sequence _ l | .mapping _ l | .alias _ _ l => l

/-- **A document**: its root node, none for an empty stream, and its anchored nodes by index. -/
structure Document where
  root : Option Node
  anchors : Array Node
  deriving Inhabited

/-- The state of composing: the scanner, the anchored nodes, the index of the latest node of
each anchor name, and the tag handles in force. -/
structure Composer where
  scanner : Scanner
  anchors : Array Node
  names : List (String × Nat)
  tagDirectives : List (String × String)

/-- Composing, which may stop with the message of a problem. -/
abbrev ComposeM := StateT Composer (Except String)

/-- Runs a step of the scanner. -/
def scan {α : Type} (m : ScanM α) : ComposeM α := do
  let c ← get
  match m.run c.scanner with
  | .ok (a, s) =>
    set { c with scanner := s }
    return a
  | .error p => throw p.message

/-- The next token. -/
def peek : ComposeM Token := scan peekToken

/-- Takes the next token. -/
def skip : ComposeM Unit := scan skipToken

/-- Stops with a problem of the parser. -/
def parserError {α : Type} (context : String) (contextMark : Mark) (problem : String) (mark : Mark) :
    ComposeM α :=
  throw (Problem.message ⟨.parser, context, contextMark, problem, mark⟩)

/-- A bound on the rounds of a loop that takes a token per round. -/
def rounds : ComposeM Nat := return 4 * (← get).scanner.size + 8

/-- An empty plain scalar at a place. -/
def emptyScalar (m : Mark) : Node := .scalar "" "" true m.line

/-- Whether a token is of one of the kinds. -/
def Token.isOneOf (t : Token) (kinds : List TokenKind) : Bool := kinds.contains t.kind

/-- **The full tag** written with a handle and suffix: a verbatim tag as it is, otherwise the
prefix of the handle's directive before the suffix. -/
def resolveTag (startMark : Mark) : Option (String × String × Mark) → ComposeM String
  | none => pure ""
  | some (handle, suffix, mark) => do
    if handle.isEmpty then return suffix
    match (← get).tagDirectives.lookup handle with
    | some pfx =>
      if (pfx ++ suffix).isEmpty then parserError "while parsing a node" startMark "found undefined tag handle" mark
      return pfx ++ suffix
    | none => parserError "while parsing a node" startMark "found undefined tag handle" mark

/-- Reserves the index of a node anchored with a name, so that aliases inside the node find it. -/
def openAnchor : Option String → ComposeM (Option Nat)
  | none => pure none
  | some name => do
    let c ← get
    set { c with anchors := c.anchors.push default, names := (name, c.anchors.size) :: c.names }
    return some c.anchors.size

/-- Records the node of a reserved anchor index. -/
def closeAnchor (slot : Option Nat) (node : Node) : ComposeM Node := do
  if let some i := slot then modify fun c => { c with anchors := c.anchors.setIfInBounds i node }
  return node

/-- The deepest nesting of nodes read. -/
def maxDepth : Nat := 10000

/-- The message of a document nested deeper than `maxDepth`. -/
def depthProblem : String := "yaml: exceeded max depth of 10000"

/-- The fuel of the root node: a node and the collection it opens take one unit each, so a node
at depth `maxDepth + 1` is the first to find none. -/
def rootFuel : Nat := 2 * maxDepth

mutual

/-- **A node**, in block context when `block`; when `indentless`, a block entry starts a sequence
that needs no indentation (the value of a block mapping key). -/
def parseNode : Nat → Bool → Bool → ComposeM Node
  | 0, _, _ => throw depthProblem
  | fuel + 1, block, indentless => do
    let t ← peek
    if let .alias name := t.kind then
      skip
      match (← get).names.lookup name with
      | some i => return .alias name i t.start.line
      | none => throw ("yaml: unknown anchor '" ++ name ++ "' referenced")
    let startMark := t.start
    let mut anchor : Option String := none
    let mut tagParts : Option (String × String × Mark) := none
    let mut t := t
    match t.kind with
    | .anchor name =>
      anchor := some name
      skip
      t ← peek
      if let .tag h s := t.kind then
        tagParts := some (h, s, t.start)
        skip
        t ← peek
    | .tag h s =>
      tagParts := some (h, s, t.start)
      skip
      t ← peek
      if let .anchor name := t.kind then
        anchor := some name
        skip
        t ← peek
    | _ => pure ()
    let tag ← resolveTag startMark tagParts
    let slot ← openAnchor anchor
    let empty : ComposeM Node :=
      if anchor.isSome || tagParts.isSome then pure (.scalar "" tag tag.isEmpty startMark.line)
      else parserError (if block then "while parsing a block node" else "while parsing a flow node")
        startMark "did not find expected node content" t.start
    let node ← if indentless && t.kind == .blockEntry then do
        let items ← parseIndentlessSequence fuel
        pure (Node.sequence items startMark.line)
      else match t.kind with
        | .scalar text style => do
          skip
          pure (Node.scalar text tag ((tag.isEmpty && style == .plain) || tag == "!") startMark.line)
        | .flowSequenceStart => do
          skip
          let items ← parseFlowSequence fuel t.start
          pure (Node.sequence items startMark.line)
        | .flowMappingStart => do
          skip
          let pairs ← parseFlowMapping fuel t.start
          pure (Node.mapping pairs startMark.line)
        | .blockSequenceStart =>
          if block then do
            skip
            let items ← parseBlockSequence fuel t.start
            pure (Node.sequence items startMark.line)
          else empty
        | .blockMappingStart =>
          if block then do
            skip
            let pairs ← parseBlockMapping fuel t.start
            pure (Node.mapping pairs startMark.line)
          else empty
        | _ => empty
    closeAnchor slot node

/-- **The entries of a block sequence**, after its start: `- node` until the block ends. -/
def parseBlockSequence : Nat → Mark → ComposeM (List Node)
  | 0, _ => throw depthProblem
  | fuel + 1, startMark => do
    let mut items : Array Node := #[]
    for _ in [0:(← rounds)] do
      let t ← peek
      match t.kind with
      | .blockEntry =>
        skip
        let next ← peek
        if next.isOneOf [.blockEntry, .blockEnd] then items := items.push (emptyScalar t.stop)
        else items := items.push (← parseNode fuel true false)
      | .blockEnd =>
        skip
        return items.toList
      | _ => parserError "while parsing a block collection" startMark "did not find expected '-' indicator" t.start
    return items.toList

/-- **The entries of a sequence without indentation**: `- node` while block entries follow. -/
def parseIndentlessSequence : Nat → ComposeM (List Node)
  | 0 => throw depthProblem
  | fuel + 1 => do
    let mut items : Array Node := #[]
    for _ in [0:(← rounds)] do
      let t ← peek
      if t.kind != .blockEntry then break
      skip
      let next ← peek
      if next.isOneOf [.blockEntry, .key, .value, .blockEnd] then items := items.push (emptyScalar t.stop)
      else items := items.push (← parseNode fuel true false)
    return items.toList

/-- **The pairs of a block mapping**, after its start: keys, each with a value or none, until the
block ends. -/
def parseBlockMapping : Nat → Mark → ComposeM (List (Node × Node))
  | 0, _ => throw depthProblem
  | fuel + 1, startMark => do
    let mut pairs : Array (Node × Node) := #[]
    for _ in [0:(← rounds)] do
      let t ← peek
      match t.kind with
      | .key =>
        skip
        let next ← peek
        let k ← if next.isOneOf [.key, .value, .blockEnd] then pure (emptyScalar t.stop)
          else parseNode fuel true true
        let t ← peek
        let v ← if t.kind == .value then do
            skip
            let next ← peek
            if next.isOneOf [.key, .value, .blockEnd] then pure (emptyScalar t.stop)
            else parseNode fuel true true
          else pure (emptyScalar t.start)
        pairs := pairs.push (k, v)
      | .blockEnd =>
        skip
        return pairs.toList
      | _ => parserError "while parsing a block mapping" startMark "did not find expected key" t.start
    return pairs.toList

/-- **The entries of a flow sequence**, after its `[`: nodes separated by commas up to `]`; an
entry with a key is a mapping of one pair. -/
def parseFlowSequence : Nat → Mark → ComposeM (List Node)
  | 0, _ => throw depthProblem
  | fuel + 1, startMark => do
    let mut items : Array Node := #[]
    let mut first := true
    for _ in [0:(← rounds)] do
      let mut t ← peek
      if t.kind == .flowSequenceEnd then
        skip
        return items.toList
      if !first then
        if t.kind == .flowEntry then
          skip
          t ← peek
        else parserError "while parsing a flow sequence" startMark "did not find expected ',' or ']'" t.start
      first := false
      if t.kind == .key then
        skip
        let next ← peek
        let k ← if next.isOneOf [.value, .flowEntry, .flowSequenceEnd] then do
            skip
            pure (emptyScalar next.stop)
          else parseNode fuel false false
        let t' ← peek
        let v ← if t'.kind == .value then do
            skip
            let next ← peek
            if next.isOneOf [.flowEntry, .flowSequenceEnd] then pure (emptyScalar t'.start)
            else parseNode fuel false false
          else pure (emptyScalar t'.start)
        items := items.push (.mapping [(k, v)] t.start.line)
      else if t.kind == .flowSequenceEnd then
        skip
        return items.toList
      else items := items.push (← parseNode fuel false false)
    return items.toList

/-- **The pairs of a flow mapping**, after its opening brace: keys with or without values, separated by
commas up to the closing brace. -/
def parseFlowMapping : Nat → Mark → ComposeM (List (Node × Node))
  | 0, _ => throw depthProblem
  | fuel + 1, startMark => do
    let mut pairs : Array (Node × Node) := #[]
    let mut first := true
    for _ in [0:(← rounds)] do
      let mut t ← peek
      if t.kind == .flowMappingEnd then
        skip
        return pairs.toList
      if !first then
        if t.kind == .flowEntry then
          skip
          t ← peek
        else parserError "while parsing a flow mapping" startMark "did not find expected ',' or '\x7d'" t.start
      first := false
      if t.kind == .key then
        skip
        let next ← peek
        let k ← if next.isOneOf [.value, .flowEntry, .flowMappingEnd] then pure (emptyScalar next.start)
          else parseNode fuel false false
        let t' ← peek
        let v ← if t'.kind == .value then do
            skip
            let next ← peek
            if next.isOneOf [.flowEntry, .flowMappingEnd] then pure (emptyScalar next.start)
            else parseNode fuel false false
          else pure (emptyScalar t'.start)
        pairs := pairs.push (k, v)
      else if t.kind == .flowMappingEnd then
        skip
        return pairs.toList
      else
        let k ← parseNode fuel false false
        let t' ← peek
        pairs := pairs.push (k, emptyScalar t'.start)
    return pairs.toList

end

/-- **The directives of a document**: at most one `%YAML 1.1` and `%TAG` handles without
repetition; the handles `!` and `!!` are added when not declared. -/
def processDirectives : ComposeM Unit := do
  let mut version := false
  let mut dirs : List (String × String) := []
  for _ in [0:(← rounds)] do
    let t ← peek
    match t.kind with
    | .versionDirective major minor =>
      if version then parserError "" default "found duplicate %YAML directive" t.start
      if major != 1 || minor != 1 then parserError "" default "found incompatible YAML document" t.start
      version := true
    | .tagDirective h p =>
      if dirs.any (·.1 == h) then parserError "" default "found duplicate %TAG directive" t.start
      dirs := dirs ++ [(h, p)]
    | _ => break
    skip
  let defaults := [("!", "!"), ("!!", "tag:yaml.org,2002:")]
  let all := defaults.foldl (fun acc (h, p) => if acc.any (·.1 == h) then acc else acc ++ [(h, p)]) dirs
  modify fun c => { c with tagDirectives := all }

/-- **The root of the first document**, none when the stream has none. A document without `---`
starts at its first node; after `---` a document may be empty. The token after the root is read
to end the document. -/
def composeFirst : ComposeM (Option Node) := do
  let t ← peek
  if t.kind != .streamStart then parserError "" default "did not find expected <stream-start>" t.start
  skip
  let t ← peek
  let startsDocument := t.isOneOf [.documentStart, .streamEnd] ||
    (match t.kind with
     | .versionDirective .. | .tagDirective .. => true
     | _ => false)
  let root ← if !startsDocument then do
      processDirectives
      some <$> parseNode rootFuel true false
    else if t.kind != .streamEnd then do
      processDirectives
      let t ← peek
      if t.kind != .documentStart then parserError "" default "did not find expected <document start>" t.start
      skip
      let t ← peek
      let ends := t.isOneOf [.documentStart, .documentEnd, .streamEnd] ||
        (match t.kind with
         | .versionDirective .. | .tagDirective .. => true
         | _ => false)
      if ends then pure (some (emptyScalar t.start)) else some <$> parseNode rootFuel true false
    else return none
  let t ← peek
  if t.kind == .documentEnd then skip
  return root

/-- **Reads the first document** of a YAML text; an empty text reads as a line break. A character
YAML does not allow anywhere in the text is an error of the reader. -/
def compose (text : String) : Except String Document :=
  if !(Text.chars text).all isAllowedChar then .error "yaml: control characters are not allowed"
  else
    let text := if text.isEmpty then "\n" else text
    match composeFirst.run ⟨Scanner.ofText text, #[], [], []⟩ with
    | .ok (root, c) => .ok ⟨root, c.anchors⟩
    | .error e => .error e

/-- Every node knows its line. -/
theorem Node.line_scalar (v t : String) (i : Bool) (l : Nat) : (Node.scalar v t i l).line = l := rfl

end Accessors.Yaml
