import SimPhonebook.Yaml.Scalar

/-!
# Tokens

A file as a sequence of tokens. Indentation becomes tokens of its own: a block starts where a line is indented further than
the block around it, and ends where a line is indented less. A text in front of a colon turns out to be a key only when the
colon is reached, so places where a key may start are remembered (`KeyPlace`) and the tokens for it are put in later.

Tokens are made on demand: `Scanner.peek` makes as many as it takes to know the next one for certain, and three at least. A
fault further on does not matter until then.
-/

namespace SimPhonebook.Yaml

inductive TokenKind where
  | streamEnd
  | version (major minor : Nat)
  | tagHandle (handle : List Char) (lead : Octets)
  | documentStart
  | documentEnd
  | blockSequenceStart
  | blockMappingStart
  | blockEnd
  | flowSequenceStart
  | flowSequenceEnd
  | flowMappingStart
  | flowMappingEnd
  | blockEntry
  | flowEntry
  | key
  | value
  | reference (name : List Char)
  | anchor (name : List Char)
  | tag (handle : List Char) (suffix : Octets)
  | scalar (text : List Char) (style : ScalarStyle)
deriving DecidableEq, Repr

structure Token where
  kind : TokenKind
  line : Nat
deriving DecidableEq, Repr

/-- A place where a key may have started. -/
structure KeyPlace where
  /-- Whether it can only be a key. -/
  required : Bool
  /-- The number of the token there, counted from the start of the file. -/
  token : Nat
  mark : Mark
deriving DecidableEq, Repr

structure Scanner where
  cursor : Cursor
  /-- The tokens made and not used yet. -/
  queue : List Token
  /-- How many tokens were used. -/
  used : Nat
  /-- The column of the block around, or -1. -/
  indent : Int
  /-- The columns of the blocks around that one, innermost first. -/
  outer : List Int
  /-- For each open bracket and for the file, the place where a key may have started. -/
  keys : List (Option KeyPlace)
  /-- Whether a key may start here. -/
  keyAllowed : Bool
  /-- How many characters from the start of the file are in lines that lose their first one. -/
  clipped : Nat

namespace Scanner

/-- A byte order mark may stand in front of a line, where it counts for nothing. But whether there are such marks is told by
the first character read alone: if it is one, all lines of the first portion are taken to start with one. -/
def clippedIn (source : Source) : Nat := if source.chars.head? = some '\uFEFF' then source.opening else 0

def ofSource (source : Source) : Scanner := ⟨.ofSource source, [], 0, -1, [], [none], true, clippedIn source⟩

/-- Whether the place is inside brackets. -/
def inFlow (s : Scanner) : Bool := s.keys.length > 1

def push (s : Scanner) (kind : TokenKind) (line : Nat) : Scanner := { s with queue := s.queue ++ [⟨kind, line⟩] }

/-- Puts a token in front of the token with a number. -/
def pushBefore (s : Scanner) (number : Nat) (kind : TokenKind) (line : Nat) : Scanner :=
  let place := number - s.used
  { s with queue := s.queue.take place ++ ⟨kind, line⟩ :: s.queue.drop place }

/-! ## Blocks and keys -/

/-- Ends the blocks that are indented further than `column`. -/
def unrollFrom (column : Int) (line : Nat) (s : Scanner) : List Int → Scanner
  | [] => s
  | next :: outer =>
    if s.indent > column then
      let s := s.push .blockEnd line
      unrollFrom column line { s with indent := next, outer := outer } outer
    else s

def unroll (s : Scanner) (column : Int) (line : Nat) : Scanner :=
  if s.inFlow then s else unrollFrom column line s s.outer

/-- How deep blocks may lie in each other, and brackets. -/
def maxDepth : Nat := 10000

def tooDeep : Text := s!"exceeded max depth of {maxDepth}"

/-- Starts a block at a column if it is further in than the block around. -/
def roll (s : Scanner) (mark : Mark) (number : Option Nat) (kind : TokenKind) : Except SyntaxError Scanner :=
  if s.inFlow || s.indent ≥ mark.column then .ok s
  else if s.outer.length ≥ maxDepth then
    .error (s.cursor.error (s.keys.head?.join.elim 0 fun k => k.mark.line) tooDeep)
  else
    let s := { s with outer := s.indent :: s.outer, indent := mark.column }
    .ok (match number with
      | some n => s.pushBefore n kind mark.line
      | none => s.push kind mark.line)

def missingColon (c : Cursor) (k : KeyPlace) : SyntaxError := c.error k.mark.line "could not find expected ':'"

/-- Gives up the current place for a key. -/
def dropKey (s : Scanner) : Except SyntaxError Scanner :=
  match s.keys with
  | some k :: rest => if k.required then .error (missingColon s.cursor k) else .ok { s with keys := none :: rest }
  | _ => .ok s

/-- Remembers that a key may start here. -/
def saveKey (s : Scanner) : Except SyntaxError Scanner :=
  if s.keyAllowed then do
    let k : KeyPlace :=
      ⟨!s.inFlow && s.indent = s.cursor.column, s.used + s.queue.length, s.cursor.mark⟩
    let s ← s.dropKey
    return { s with keys := some k :: s.keys.drop 1 }
  else .ok s

/-- Whether a key that started at a place may still be one: it has to end on its line, and soon. -/
def isCurrent (c : Cursor) (k : KeyPlace) : Bool := k.mark.line = c.line && c.mark.index ≤ k.mark.index + 1024

/-! ## Between tokens -/

/-- How far ahead a comment is looked for. -/
def commentReach : Nat := 512

/-- Whether a character ends a line and is one octet long. -/
def isSimpleBreak (c : Char) : Bool := c = '\r' || c = '\n'

/-- Whether another comment follows the one that ends here: after a simple line break, with nothing but blanks and simple
line breaks before it, and within reach. -/
def commentFollows (c : Cursor) : Bool :=
  match c.rest.take commentReach with
  | [] => false
  | x :: ahead => isSimpleBreak x && (ahead.dropWhile fun y => isBlank y || isSimpleBreak y).head? = some '#'

/-- Past comments that follow each other. In front of all but the first any blanks may stand. The cursor stands in front of a
comment. -/
def skipComments : Nat → Cursor → Cursor
  | 0, c => c
  | fuel + 1, c =>
    let c := c.skipLine
    if commentFollows c then skipComments fuel (skipTo commentReach c) else c
where
  /-- Past blanks and line breaks. -/
  skipTo : Nat → Cursor → Cursor
    | 0, c => c
    | fuel + 1, c =>
      if c.blankAt 0 then skipTo fuel c.skip else if c.breakAt 0 then skipTo fuel c.skipBreak else c

/-- Past the character that a line loses. -/
def skipClipped (s : Scanner) : Cursor :=
  if s.cursor.column = 0 && s.cursor.mark.index < s.clipped then s.cursor.skip else s.cursor

/-- Past blanks, comments and line breaks. A tab may not stand where a key may start. -/
def skipGap : Nat → Scanner → Scanner
  | 0, s => s
  | fuel + 1, s =>
    let tabs := s.inFlow || !s.keyAllowed
    let c := s.skipClipped.skipWhile fun x => x = ' ' || (tabs && x = '\t')
    let c := if c.startsWith '#' then skipComments (c.rest.length + 1) c else c
    if c.breakAt 0 then skipGap fuel { s with cursor := c.skipBreak, keyAllowed := s.keyAllowed || !s.inFlow }
    else { s with cursor := c }

/-- Past a comment on the same line as the token before it. -/
def skipComment (s : Scanner) : Scanner :=
  if s.cursor.fresh || ((s.cursor.rest.take commentReach).dropWhile isBlank).head? ≠ some '#' then s
  else { s with cursor := s.cursor.skipLine }

/-! ## Names, tags and directives -/

/-- A name after `&` or `*`, at which the cursor stands. -/
def name (c : Cursor) : Except SyntaxError (List Char × Cursor) :=
  let (cs, after) := c.skip.readWhile isWordChar
  if cs.isEmpty || !(after.head?.all fun x => isBlank x || isBreak x || "?:,]\x7d%@`".toList.contains x) then
    .error (after.error c.line "did not find expected alphabetic or numeric character")
  else .ok (cs, after)

/-- Characters that may stand in the rest of a tag. -/
def isTagChar (c : Char) : Bool := isWordChar c || ";/?:@&=+$.,!~*'()[]%".toList.contains c

/-- The octets of consecutive `%` escapes that make one character. -/
def tagEscape (context : Nat) (c : Cursor) : Except SyntaxError (Octets × Cursor) := do
  let octet (c : Cursor) : Except SyntaxError Nat :=
    match if c.startsWith '%' then Scalar.hexValue? 2 (c.rest.drop 1) else none with
    | some n => .ok n
    | none => .error (c.error context "did not find URI escaped octet")
  let b ← octet c
  match Source.width (UInt8.ofNat b) with
  | none => throw (c.error context "found an incorrect leading UTF-8 octet")
  | some width =>
    let rec tail : Nat → Cursor → Except SyntaxError (Octets × Cursor)
      | 0, c => .ok ([], c)
      | n + 1, c => do
        let b ← octet c
        if b / 64 ≠ 2 then throw (c.error context "found an incorrect trailing UTF-8 octet")
        let (more, after) ← tail n (c.skipMany 3)
        return (UInt8.ofNat b :: more, after)
    let (more, after) ← tail (width - 1) (c.skipMany 3)
    return (UInt8.ofNat b :: more, after)

/-- The octets of the rest of a tag. -/
def tagOctets (context : Nat) : Nat → Cursor → Except SyntaxError (Octets × Cursor)
  | 0, c => .ok ([], c)
  | fuel + 1, c =>
    match c.head? with
    | none => .ok ([], c)
    | some x =>
      if !isTagChar x then .ok ([], c)
      else do
        let (octets, after) ← if x = '%' then tagEscape context c else .ok (Utf8.encode x, c.skip)
        let (more, after) ← tagOctets context fuel after
        return (octets ++ more, after)

/-- The rest of a tag after `head`, which counts as a part of it without its first character. -/
def tagRest (context : Nat) (head : List Char) (c : Cursor) : Except SyntaxError (Octets × Cursor) := do
  let (octets, after) ← tagOctets context (c.rest.length + 1) c
  if head.isEmpty && octets.isEmpty then throw (after.error context "did not find expected tag URI")
  return (Utf8.ofChars (head.drop 1) ++ octets, after)

/-- A handle: an exclamation mark, perhaps a name and another mark. -/
def handle (context : Nat) (directive : Bool) (c : Cursor) : Except SyntaxError (List Char × Cursor) :=
  if !c.startsWith '!' then .error (c.error context "did not find expected '!'")
  else
    let (cs, after) := c.skip.readWhile isWordChar
    if after.startsWith '!' then .ok ('!' :: cs ++ ['!'], after.skip)
    else if directive && !cs.isEmpty then .error (after.error context "did not find expected '!'")
    else .ok ('!' :: cs, after)

/-- A tag as handle and suffix, at whose exclamation mark the cursor stands. -/
def tag (c : Cursor) : Except SyntaxError (List Char × Octets × Cursor) := do
  let context := c.line
  let (h, suffix, after) ←
    if c.peek? 1 = some '<' then do
      let (suffix, after) ← tagRest context [] (c.skipMany 2)
      if !after.startsWith '>' then throw (after.error context "did not find the expected '>'")
      pure ([], suffix, after.skip)
    else do
      let (h, after) ← handle context false c
      if h.length > 1 && h.getLast? = some '!' then
        let (suffix, after) ← tagRest context [] after
        pure (h, suffix, after)
      else
        let (suffix, after) ← tagRest context h after
        if suffix.isEmpty then pure ([], Utf8.encode '!', after) else pure (['!'], suffix, after)
  if !after.gapAt 0 then throw (after.error context "did not find expected whitespace or line break")
  return (h, suffix, after)

/-- A number of at most two digits. -/
def versionNumber (context : Nat) (c : Cursor) : Except SyntaxError (Nat × Cursor) :=
  let (digits, after) := c.readWhile Char.isDigit
  if digits.length > 2 then .error ((c.skipMany 2).error context "found extremely long version number")
  else if digits.isEmpty then .error (c.error context "did not find expected version number")
  else .ok (digits.foldl (fun n d => n * 10 + (d.toNat - 48)) 0, after)

def versionValue (context : Nat) (c : Cursor) : Except SyntaxError (TokenKind × Cursor) := do
  let (major, after) ← versionNumber context (c.skipWhile isBlank)
  if !after.startsWith '.' then throw (after.error context "did not find expected digit or '.' character")
  let (minor, after) ← versionNumber context after.skip
  return (.version major minor, after)

def tagHandleValue (context : Nat) (c : Cursor) : Except SyntaxError (TokenKind × Cursor) := do
  let (h, after) ← handle context true (c.skipWhile isBlank)
  if !after.blankAt 0 then throw (after.error context "did not find expected whitespace")
  let (lead, after) ← tagRest context [] (after.skipWhile isBlank)
  if !after.gapAt 0 then throw (after.error context "did not find expected whitespace or line break")
  return (.tagHandle h lead, after)

/-- A directive, at whose percent sign the cursor stands. -/
def directive (c : Cursor) : Except SyntaxError (TokenKind × Cursor) := do
  let context := c.line
  let (cs, after) := c.skip.readWhile isWordChar
  if cs.isEmpty then throw (after.error context "could not find expected directive name")
  if !after.gapAt 0 then throw (after.error context "found unexpected non-alphabetical character")
  let (kind, after) ←
    if cs = "YAML".toList then versionValue context after
    else if cs = "TAG".toList then tagHandleValue context after
    else throw (after.error context "found unknown directive name")
  let after := after.skipWhile isBlank
  let after := if after.startsWith '#' then after.skipLine else after
  if !after.lineEnds then throw (after.error context "did not find expected comment or line break")
  return (kind, after.skipBreak)

/-! ## Making tokens -/

/-- A token of `count` characters. -/
def take (s : Scanner) (kind : TokenKind) (count : Nat) : Scanner :=
  { s.push kind s.cursor.line with cursor := s.cursor.skipMany count }

/-- Leaves all blocks: the file ends, or a document starts or ends. -/
def leaveBlocks (s : Scanner) : Except SyntaxError Scanner := do
  let s ← (s.unroll (-1) s.cursor.line).dropKey
  return { s with keyAllowed := false }

def fetchEnd (s : Scanner) : Except SyntaxError Scanner := do
  let c := s.cursor
  let mark : Mark := if c.column = 0 then c.mark else ⟨c.mark.index, c.line + 1, 0⟩
  let s ← { s with cursor := { c with mark := mark } }.leaveBlocks
  return s.push .streamEnd s.cursor.line

def fetchDirective (s : Scanner) : Except SyntaxError Scanner := do
  let s ← s.leaveBlocks
  let (kind, after) ← directive s.cursor
  return { s.push kind s.cursor.line with cursor := after }

def fetchMarker (s : Scanner) (kind : TokenKind) : Except SyntaxError Scanner := do
  let s ← s.leaveBlocks
  return s.take kind 3

def fetchFlowStart (s : Scanner) (kind : TokenKind) : Except SyntaxError Scanner := do
  let s ← s.saveKey
  if s.keys.length > maxDepth then throw (s.cursor.errorHere tooDeep)
  return { s with keys := none :: s.keys, keyAllowed := true }.take kind 1

def fetchFlowEnd (s : Scanner) (kind : TokenKind) : Except SyntaxError Scanner := do
  let s ← s.dropKey
  return { s with keys := if s.inFlow then s.keys.drop 1 else s.keys, keyAllowed := false }.take kind 1

def fetchFlowEntry (s : Scanner) : Except SyntaxError Scanner := do
  let s ← s.dropKey
  return { s with keyAllowed := true }.take .flowEntry 1

def fetchBlockEntry (s : Scanner) : Except SyntaxError Scanner := do
  if !s.inFlow && !s.keyAllowed then
    throw (s.cursor.errorHere "block sequence entries are not allowed in this context")
  let s ← (← s.roll s.cursor.mark none .blockSequenceStart).dropKey
  return { s with keyAllowed := true }.take .blockEntry 1

def fetchKey (s : Scanner) : Except SyntaxError Scanner := do
  if !s.inFlow && !s.keyAllowed then
    throw (s.cursor.errorHere "mapping keys are not allowed in this context")
  let s ← (← s.roll s.cursor.mark none .blockMappingStart).dropKey
  return { s with keyAllowed := !s.inFlow }.take .key 1

def fetchValue (s : Scanner) : Except SyntaxError Scanner := do
  match s.keys.head?.join with
  | some k =>
    if isCurrent s.cursor k then
      let s ← (s.pushBefore k.token .key k.mark.line).roll k.mark (some k.token) .blockMappingStart
      return { s with keys := none :: s.keys.drop 1, keyAllowed := false }.take .value 1
    if k.required then throw (missingColon s.cursor k)
  | none => pure ()
  if !s.inFlow && !s.keyAllowed then
    throw (s.cursor.errorHere "mapping values are not allowed in this context")
  let s ← s.roll s.cursor.mark none .blockMappingStart
  return { s with keys := none :: s.keys.drop 1, keyAllowed := !s.inFlow }.take .value 1

def fetchAlias (s : Scanner) : Except SyntaxError Scanner := do
  let s ← s.saveKey
  let (cs, after) ← name s.cursor
  return { s.push (.reference cs) s.cursor.line with cursor := after, keyAllowed := false }

def fetchAnchor (s : Scanner) : Except SyntaxError Scanner := do
  let s ← s.saveKey
  let (cs, after) ← name s.cursor
  return { s.push (.anchor cs) s.cursor.line with cursor := after, keyAllowed := false }

def fetchTag (s : Scanner) : Except SyntaxError Scanner := do
  let s ← s.saveKey
  let (h, suffix, after) ← tag s.cursor
  return { s.push (.tag h suffix) s.cursor.line with cursor := after, keyAllowed := false }

def fetchBlock (s : Scanner) (literal : Bool) : Except SyntaxError Scanner := do
  let s ← s.dropKey
  let (text, after) ← Scalar.block literal s.indent s.cursor
  return { s.push (.scalar text .block) s.cursor.line with cursor := after, keyAllowed := true }

def fetchQuoted (s : Scanner) (single : Bool) : Except SyntaxError Scanner := do
  let s ← s.saveKey
  let (text, after) ← Scalar.quoted single s.cursor
  return { s.push (.scalar text .quoted) s.cursor.line with cursor := after, keyAllowed := false }

def fetchPlain (s : Scanner) : Except SyntaxError Scanner := do
  let s ← s.saveKey
  let (text, broken, after) ← Scalar.plain s.inFlow s.indent s.cursor
  return { s.push (.scalar text .plain) s.cursor.line with cursor := after, keyAllowed := broken }

/-- Whether a plain text may start with a character. -/
def startsPlain (c : Cursor) (inFlow : Bool) (x : Char) : Bool :=
  !(isBlank x || isBreak x || "-?:,[]\x7b\x7d#&*!|>'\"%@`".toList.contains x) || (x = '-' && !c.blankAt 1) ||
    (!inFlow && (x = '?' || x = ':') && !c.gapAt 1)

/-- A token that starts with a character, which is not the first of a directive or a document marker. -/
def fetchFrom (s : Scanner) (x : Char) : Except SyntaxError Scanner :=
  let c := s.cursor
  if x = '[' then s.fetchFlowStart .flowSequenceStart
  else if x = '{' then s.fetchFlowStart .flowMappingStart
  else if x = ']' then s.fetchFlowEnd .flowSequenceEnd
  else if x = '}' then s.fetchFlowEnd .flowMappingEnd
  else if x = ',' then s.fetchFlowEntry
  else if x = '-' && c.gapAt 1 then s.fetchBlockEntry
  else if x = '?' && (s.inFlow || c.gapAt 1) then s.fetchKey
  else if x = ':' && (s.inFlow || c.gapAt 1) then s.fetchValue
  else if x = '*' then s.fetchAlias
  else if x = '&' then s.fetchAnchor
  else if x = '!' then s.fetchTag
  else if x = '|' && !s.inFlow then s.fetchBlock true
  else if x = '>' && !s.inFlow then s.fetchBlock false
  else if x = '\'' then s.fetchQuoted true
  else if x = '"' then s.fetchQuoted false
  else if startsPlain c s.inFlow x then s.fetchPlain
  else .error (c.errorHere "found character that cannot start any token")

/-- Whether the last token made is a dash. -/
def endsWithDash (s : Scanner) : Bool := s.queue.getLast?.any (·.kind = .blockEntry)

/-- Makes the next token, and those that come with it. -/
def fetch (s : Scanner) : Except SyntaxError Scanner :=
  let before := s.cursor.line
  let s := skipGap (s.cursor.rest.length + 1) s
  let s := s.unroll s.cursor.column before
  match s.cursor.faultAhead, s.cursor.head? with
  | some e, _ => .error (.source e)
  | none, none => s.fetchEnd
  | none, some x =>
    if s.cursor.column = 0 && x = '%' then s.fetchDirective
    else if s.cursor.markerAt '-' then s.fetchMarker .documentStart
    else if s.cursor.markerAt '.' then s.fetchMarker .documentEnd
    else do
      let s ← s.fetchFrom x
      return if s.endsWithDash then s else s.skipComment

/-- Whether the next token may turn out to be a key. -/
def headIsOpen (s : Scanner) : Except SyntaxError Bool :=
  match s.keys.findSome? fun k => k.filter (·.token = s.used) with
  | none => .ok false
  | some k =>
    if isCurrent s.cursor k then .ok true
    else if k.required then .error (missingColon s.cursor k)
    else .ok false

/-- Makes tokens until the next is certain and two more are there. -/
def fill : Nat → Scanner → Except SyntaxError Scanner
  | 0, s => .ok s
  | fuel + 1, s => do
    if s.queue.length > 2 then
      if !(← s.headIsOpen) then return s
    fill fuel (← s.fetch)

/-- The next token. -/
def peek (s : Scanner) : Except SyntaxError (Token × Scanner) := do
  let s ← fill (s.cursor.rest.length + 4) s
  return (s.queue.head?.getD ⟨.streamEnd, s.cursor.line⟩, s)

/-- Uses the next token. -/
def skip (s : Scanner) : Scanner := { s with queue := s.queue.drop 1, used := s.used + 1 }

end Scanner

end SimPhonebook.Yaml
