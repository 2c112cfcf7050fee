import SimPhonebook.Yaml.Tag
import SimPhonebook.Yaml.Token

/-!
# Nodes

The structure of a document: scalars, sequences, mappings, and aliases of nodes that have an anchor. An alias may stand
inside the node it refers to, so it names the node by number and the document keeps the nodes under their numbers.
-/

namespace SimPhonebook.Yaml

/-- A node and the line it starts on, counted from one. -/
inductive Node where
  | scalar (line : Nat) (tag value : Text)
  | sequence (line : Nat) (tag : Text) (items : List Node)
  | mapping (line : Nat) (tag : Text) (pairs : List (Node × Node))
  /-- The alias with a number of its own, of the node under the number `target`. -/
  | reference (line : Nat) (name : Text) (number target : Nat)
deriving Inhabited, Repr

namespace Node

def line : Node → Nat
  | scalar line _ _ | sequence line _ _ | mapping line _ _ | reference line _ _ _ => line

/-- The number of nodes below and including this one. -/
def size : Node → Nat
  | scalar _ _ _ | reference _ _ _ _ => 1
  | sequence _ _ items => 1 + sizes items
  | mapping _ _ pairs => 1 + pairSizes pairs
where
  sizes : List Node → Nat
    | [] => 0
    | n :: ns => n.size + sizes ns
  pairSizes : List (Node × Node) → Nat
    | [] => 0
    | (k, v) :: rest => k.size + v.size + pairSizes rest

end Node

structure Document where
  root : Node
  /-- The nodes that have an anchor, by number. -/
  anchored : List (Nat × Node)
deriving Inhabited, Repr

/-- Why a file holds no document that makes sense. -/
inductive DocumentError where
  | syntaxError (error : SyntaxError)
  | unknownAnchor (name : Text)
deriving DecidableEq, Repr

instance : Described DocumentError where
  message
    | .syntaxError e => message e
    | .unknownAnchor name => "unknown anchor '" ++ name ++ "' referenced"

/-- What is known while a document is read. -/
structure Reading where
  scanner : Scanner
  /-- The prefixes that handles of tags stand for. -/
  handles : List (List Char × Octets)
  /-- The numbers of the anchors, the latest first. -/
  anchors : List (Text × Nat)
  anchored : List (Nat × Node)
  /-- How many numbers were given to anchors and aliases. -/
  count : Nat

namespace Reading

def fail {α : Type} (context : Nat) (t : Token) (text : Text) : Except DocumentError α :=
  .error (.syntaxError (.ofStructure context t.line text))

def peek (r : Reading) : Except DocumentError (Token × Reading) :=
  match r.scanner.peek with
  | .ok (t, s) => .ok (t, { r with scanner := s })
  | .error e => .error (.syntaxError e)

def skip (r : Reading) : Reading := { r with scanner := r.scanner.skip }

/-- Uses the next token and looks at the one after it. -/
def advance (r : Reading) : Except DocumentError (Token × Reading) := r.skip.peek

/-- Anchor and tag written before a node. -/
structure Properties where
  line : Nat
  anchor : Option Text
  tag : Option Text

/-- The full tag of a handle and a suffix. -/
def expand (r : Reading) (context : Nat) (t : Token) (handle : List Char) (suffix : Octets) :
    Except DocumentError Text :=
  if handle.isEmpty then .ok ⟨suffix⟩
  else match r.handles.lookup handle with
    | some lead => .ok ⟨lead ++ suffix⟩
    | none => fail context t "found undefined tag handle"

/-- The properties before a node, and the token after them. -/
def properties (r : Reading) : Except DocumentError (Properties × Token × Reading) := do
  let (t, r) ← r.peek
  match t.kind with
  | .anchor name =>
    let (u, r) ← r.advance
    match u.kind with
    | .tag handle suffix =>
      let (v, r) ← r.advance
      return (⟨t.line, some (Text.ofChars name), some (← r.expand t.line u handle suffix)⟩, v, r)
    | _ => return (⟨t.line, some (Text.ofChars name), none⟩, u, r)
  | .tag handle suffix =>
    let (u, r) ← r.advance
    match u.kind with
    | .anchor name =>
      let (v, r) ← r.advance
      return (⟨t.line, some (Text.ofChars name), some (← r.expand t.line t handle suffix)⟩, v, r)
    | _ => return (⟨t.line, none, some (← r.expand t.line t handle suffix)⟩, u, r)
  | _ => return (⟨t.line, none, none⟩, t, r)

/-- The short form of the tag of a node: the one written, unless it is `!` alone, or the default. -/
def Properties.tagOr (p : Properties) (default : Text) : Text :=
  match p.tag with
  | some t => if t = "!" then default else Tag.shorten t
  | none => default

/-- The tag a scalar has if none is written. -/
def defaultTag (style : ScalarStyle) (text : Text) : Text :=
  if style ≠ .plain then Tag.string else if text = "<<" then Tag.merge else (infer Text.empty text).1

/-- Gives the anchor of a node a number. -/
def declare (r : Reading) (p : Properties) : Option Nat × Reading :=
  match p.anchor with
  | none => (none, r)
  | some name => (some r.count, { r with anchors := (name, r.count) :: r.anchors, count := r.count + 1 })

/-- Keeps a complete node under the number of its anchor. -/
def define (r : Reading) (number : Option Nat) (n : Node) : Reading :=
  match number with
  | none => r
  | some k => { r with anchored := (k, n) :: r.anchored }

/-- Reads a scalar, which is the next token. -/
def scalar (r : Reading) (p : Properties) (text : Text) (style : ScalarStyle) : Node × Reading :=
  let n := Node.scalar (p.line + 1) (p.tagOr (defaultTag style text)) text
  let (number, r) := r.declare p
  (n, r.define number n)

/-- The node where nothing is written. -/
def emptyNode (line : Nat) : Node := .scalar (line + 1) Tag.null Text.empty

def reference (r : Reading) (t : Token) (name : Text) : Except DocumentError (Node × Reading) :=
  match r.anchors.lookup name with
  | none => .error (.unknownAnchor name)
  | some target => .ok (.reference (t.line + 1) name r.count target, { r with count := r.count + 1 }.skip)

mutual

/-- Reads a node. A block can start only if `block`, and dashes at the column of the key only if `dashes`. -/
def node : Nat → Bool → Bool → Reading → Except DocumentError (Node × Reading)
  | 0, _, _, r => do
    let (t, _) ← r.peek
    fail t.line t "did not find expected node content"
  | fuel + 1, block, dashes, r => do
    let (t, r) ← r.peek
    if let .reference name := t.kind then
      return ← r.reference t (Text.ofChars name)
    let (p, t, r) ← r.properties
    let collection (read : Reading → Except DocumentError (Node × Reading)) : Except DocumentError (Node × Reading) := do
      let (number, r) := r.declare p
      let (n, r) ← read r
      return (n, r.define number n)
    match t.kind, block, dashes with
    | .blockEntry, _, true => collection fun r => do
      let (items, r) ← indentlessItems fuel r
      return (.sequence (p.line + 1) (p.tagOr Tag.sequence) items, r)
    | .scalar text style, _, _ => return r.skip.scalar p (Text.ofChars text) style
    | .flowSequenceStart, _, _ => collection fun r => do
      let (items, r) ← flowItems fuel t.line true r.skip
      return (.sequence (p.line + 1) (p.tagOr Tag.sequence) items, r)
    | .flowMappingStart, _, _ => collection fun r => do
      let (pairs, r) ← flowPairs fuel t.line true r.skip
      return (.mapping (p.line + 1) (p.tagOr Tag.mapping) pairs, r)
    | .blockSequenceStart, true, _ => collection fun r => do
      let (items, r) ← blockItems fuel t.line r.skip
      return (.sequence (p.line + 1) (p.tagOr Tag.sequence) items, r)
    | .blockMappingStart, true, _ => collection fun r => do
      let (pairs, r) ← blockPairs fuel t.line r.skip
      return (.mapping (p.line + 1) (p.tagOr Tag.mapping) pairs, r)
    | _, _, _ =>
      if p.anchor.isSome || p.tag.isSome then return r.scalar p Text.empty .plain
      else fail p.line t "did not find expected node content"

/-- The items of a sequence in a block of its own. -/
def blockItems : Nat → Nat → Reading → Except DocumentError (List Node × Reading)
  | 0, _, r => .ok ([], r)
  | fuel + 1, context, r => do
    let (t, r) ← r.peek
    match t.kind with
    | .blockEntry =>
      let (u, r) ← r.advance
      let (n, r) ←
        if u.kind = .blockEntry || u.kind = .blockEnd then pure (emptyNode t.line, r) else node fuel true false r
      let (ns, r) ← blockItems fuel context r
      return (n :: ns, r)
    | .blockEnd => return ([], r.skip)
    | _ => fail context t "did not find expected '-' indicator"

/-- The items of a sequence at the column of the key it belongs to. -/
def indentlessItems : Nat → Reading → Except DocumentError (List Node × Reading)
  | 0, r => .ok ([], r)
  | fuel + 1, r => do
    let (t, r) ← r.peek
    if t.kind ≠ .blockEntry then return ([], r)
    let (u, r) ← r.advance
    let (n, r) ←
      if u.kind = .blockEntry || u.kind = .key || u.kind = .value || u.kind = .blockEnd then
        pure (emptyNode t.line, r)
      else node fuel true false r
    let (ns, r) ← indentlessItems fuel r
    return (n :: ns, r)

/-- The pairs of a mapping in a block. -/
def blockPairs : Nat → Nat → Reading → Except DocumentError (List (Node × Node) × Reading)
  | 0, _, r => .ok ([], r)
  | fuel + 1, context, r => do
    let (t, r) ← r.peek
    match t.kind with
    | .key =>
      let (u, r) ← r.advance
      let (k, r) ←
        if u.kind = .key || u.kind = .value || u.kind = .blockEnd then pure (emptyNode t.line, r)
        else node fuel true true r
      let (t, r) ← r.peek
      let (v, r) ←
        if t.kind = .value then do
          let (u, r) ← r.advance
          if u.kind = .key || u.kind = .value || u.kind = .blockEnd then pure (emptyNode t.line, r)
          else node fuel true true r
        else pure (emptyNode t.line, r)
      let (rest, r) ← blockPairs fuel context r
      return ((k, v) :: rest, r)
    | .blockEnd => return ([], r.skip)
    | _ => fail context t "did not find expected key"

/-- The items of a sequence in brackets. A pair among them is a mapping of its own. -/
def flowItems : Nat → Nat → Bool → Reading → Except DocumentError (List Node × Reading)
  | 0, _, _, r => .ok ([], r)
  | fuel + 1, context, first, r => do
    let (t, r) ← r.peek
    if t.kind = .flowSequenceEnd then return ([], r.skip)
    let (t, r) ←
      if first then pure (t, r)
      else if t.kind = .flowEntry then r.advance
      else fail context t "did not find expected ',' or ']'"
    if t.kind = .flowSequenceEnd then return ([], r.skip)
    let (n, r) ← if t.kind = .key then flowPair fuel t.line r.skip else node fuel false false r
    let (ns, r) ← flowItems fuel context false r
    return (n :: ns, r)

/-- A pair that stands as an item of a sequence in brackets. -/
def flowPair : Nat → Nat → Reading → Except DocumentError (Node × Reading)
  | 0, line, r => .ok (emptyNode line, r)
  | fuel + 1, line, r => do
    let (t, r) ← r.peek
    let (k, r) ←
      if t.kind = .value || t.kind = .flowEntry || t.kind = .flowSequenceEnd then pure (emptyNode t.line, r.skip)
      else node fuel false false r
    let (t, r) ← r.peek
    let (v, r) ←
      if t.kind = .value then do
        let (u, r) ← r.advance
        if u.kind = .flowEntry || u.kind = .flowSequenceEnd then pure (emptyNode u.line, r) else node fuel false false r
      else pure (emptyNode t.line, r)
    return (.mapping (line + 1) Tag.mapping [(k, v)], r)

/-- The pairs of a mapping in braces. -/
def flowPairs : Nat → Nat → Bool → Reading → Except DocumentError (List (Node × Node) × Reading)
  | 0, _, _, r => .ok ([], r)
  | fuel + 1, context, first, r => do
    let (t, r) ← r.peek
    if t.kind = .flowMappingEnd then return ([], r.skip)
    let (t, r) ←
      if first then pure (t, r)
      else if t.kind = .flowEntry then r.advance
      else fail context t "did not find expected ',' or '\x7d'"
    if t.kind = .flowMappingEnd then return ([], r.skip)
    let (k, v, r) ←
      if t.kind = .key then do
        let (u, r) ← r.advance
        let (k, r) ←
          if u.kind = .value || u.kind = .flowEntry || u.kind = .flowMappingEnd then pure (emptyNode u.line, r)
          else node fuel false false r
        let (u, r) ← r.peek
        if u.kind = .value then do
          let (w, r) ← r.advance
          if w.kind = .flowEntry || w.kind = .flowMappingEnd then pure (k, emptyNode w.line, r)
          else
            let (v, r) ← node fuel false false r
            pure (k, v, r)
        else pure (k, emptyNode u.line, r)
      else do
        let (k, r) ← node fuel false false r
        let (u, r) ← r.peek
        pure (k, emptyNode u.line, r)
    let (rest, r) ← flowPairs fuel context false r
    return ((k, v) :: rest, r)

end

/-- The handles of tags that need no directive. -/
def commonHandles : List (List Char × Octets) :=
  [("!".toList, Utf8.encode '!'), ("!!".toList, Tag.commonLead.octets)]

/-- The directives in front of a document, and the token after them. -/
def directives : Nat → Bool → Reading → Except DocumentError (Token × Reading)
  | 0, _, r => r.peek
  | fuel + 1, versioned, r => do
    let (t, r) ← r.peek
    match t.kind with
    | .version major minor =>
      if versioned then fail 0 t "found duplicate %YAML directive"
      else if major ≠ 1 || minor ≠ 1 then fail 0 t "found incompatible YAML document"
      else directives fuel true r.skip
    | .tagHandle handle lead =>
      if (r.handles.lookup handle).isSome then fail 0 t "found duplicate %TAG directive"
      else directives fuel versioned { r with handles := r.handles ++ [(handle, lead)] }.skip
    | _ => return (t, { r with handles := r.handles ++ commonHandles })

/-- Whether a token cannot start the content of a document that is marked as such. -/
def endsDocument : TokenKind → Bool
  | .version _ _ | .tagHandle _ _ | .documentStart | .documentEnd | .streamEnd => true
  | _ => false

/-- The first document, if there is one. -/
def document (r : Reading) (fuel : Nat) : Except DocumentError (Option Document) := do
  let (t, r) ← r.peek
  if t.kind = .streamEnd then return none
  let implicit := match t.kind with
    | .version _ _ | .tagHandle _ _ | .documentStart => false
    | _ => true
  let (t, r) ← directives fuel false r
  let (n, r) ←
    if implicit then node fuel true false r
    else if t.kind ≠ .documentStart then fail 0 t "did not find expected <document start>"
    else do
      let (u, r) ← r.advance
      if endsDocument u.kind then pure (emptyNode u.line, r) else node fuel true false r
  let (_, r) ← r.peek
  return some ⟨n, r.anchored⟩

end Reading

/-- The first document of a file, if there is one. -/
def Document.parse (data : Octets) : Except DocumentError (Option Document) :=
  let source := Source.decode data
  Reading.document ⟨.ofSource source, [], [], [], 0⟩ (8 * (source.chars.length + 16))

end SimPhonebook.Yaml
