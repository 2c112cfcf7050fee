import SimPhonebook.Yaml.Cursor

/-!
# Scalars

The ways to write a text: plain, between quotes, or as a block of lines. Line breaks inside a plain or quoted text are
folded: one becomes a blank, of several the first is dropped.
-/

namespace SimPhonebook.Yaml

inductive ScalarStyle where
  | plain
  | quoted
  | block
deriving DecidableEq, Repr

/-- The blanks and line breaks between two parts of a text. -/
structure Gap where
  /-- Blanks before any line break. -/
  blanks : List Char
  /-- The first line break. -/
  first : List Char
  /-- The line breaks after it. -/
  others : List Char
  /-- Whether there was a line break. -/
  broken : Bool

namespace Gap

def empty : Gap := ⟨[], [], [], false⟩

/-- What the gap contributes to the text. -/
def folded (g : Gap) : List Char :=
  if !g.broken then g.blanks
  else if g.first.head? = some '\n' then if g.others.isEmpty then [' '] else g.others
  else g.first ++ g.others

/-- Adds a line break. -/
def addBreak (g : Gap) (text : List Char) : Gap :=
  if g.broken then ⟨g.blanks, g.first, g.others ++ text, true⟩ else ⟨[], text, g.others, true⟩

/-- Adds a blank. -/
def addBlank (g : Gap) (c : Char) : Gap := if g.broken then g else ⟨g.blanks ++ [c], g.first, g.others, false⟩

end Gap

namespace Scalar

/-! ## Plain -/

/-- Whether a character ends a plain text inside brackets. -/
def endsInFlow (c : Char) : Bool := c = ',' || c = '?' || c = '[' || c = ']' || c = '{' || c = '}'

/-- The part of a plain text up to a blank, a line break or what ends it. -/
def plainPart (inFlow : Bool) : Nat → Cursor → List Char × Cursor
  | 0, c => ([], c)
  | fuel + 1, c =>
    match c.head? with
    | none => ([], c)
    | some x =>
      if c.gapAt 0 || (x = ':' && c.gapAt 1) || (inFlow && endsInFlow x) then ([], c)
      else
        let (more, after) := plainPart inFlow fuel c.skip
        (x :: more, after)

/-- The gap after a part of a plain text that may not be indented by less than `indent`. -/
def plainGap (indent : Int) (context : Nat) : Nat → Gap → Cursor → Except SyntaxError (Gap × Cursor)
  | 0, g, c => .ok (g, c)
  | fuel + 1, g, c =>
    match c.head? with
    | none => .ok (g, c)
    | some x =>
      if isBlank x then
        if g.broken && (c.column : Int) < indent && x = '\t' then
          .error (c.error context "found a tab character that violates indentation")
        else plainGap indent context fuel (g.addBlank x) c.skip
      else if isBreak x then
        let (text, after) := c.readBreak
        plainGap indent context fuel (g.addBreak text) after
      else .ok (g, c)

/-- The rest of a plain text after a gap. The answer tells also whether a line break follows the text. -/
def plainFrom (inFlow : Bool) (indent : Int) (context : Nat) :
    Nat → Gap → Cursor → Except SyntaxError (List Char × Bool × Cursor)
  | 0, g, c => .ok ([], g.broken, c)
  | fuel + 1, g, c => do
    if c.atMarker || c.startsWith '#' then return ([], g.broken, c)
    let (part, after) := plainPart inFlow c.rest.length c
    let text := if part.isEmpty then [] else g.folded ++ part
    let g := if part.isEmpty then g else .empty
    if !(after.blankAt 0 || after.breakAt 0) then return (text, g.broken, after)
    let (g, after) ← plainGap indent context after.rest.length g after
    if !inFlow && (after.column : Int) < indent then return (text, g.broken, after)
    let (more, broken, after) ← plainFrom inFlow indent context fuel g after
    return (text ++ more, broken, after)

/-- A plain text inside a block of indentation `indent`. -/
def plain (inFlow : Bool) (indent : Int) (c : Cursor) : Except SyntaxError (List Char × Bool × Cursor) :=
  plainFrom inFlow (indent + 1) c.line (c.rest.length + 1) .empty c

/-! ## Quoted -/

/-- The characters that follow a backslash and stand for one other. -/
def escapes : List (Char × Nat) :=
  [('0', 0), ('a', 7), ('b', 8), ('t', 9), ('\t', 9), ('n', 10), ('v', 11), ('f', 12), ('r', 13), ('e', 27), (' ', 32),
    ('"', 34), ('\'', 39), ('\\', 92), ('N', 0x85), ('_', 0xA0), ('L', 0x2028), ('P', 0x2029)]

/-- How many hexadecimal digits follow a backslash and a letter. -/
def codeLength? (c : Char) : Option Nat :=
  if c = 'x' then some 2 else if c = 'u' then some 4 else if c = 'U' then some 8 else none

def hexDigit? (c : Char) : Option Nat :=
  if '0' ≤ c && c ≤ '9' then some (c.toNat - 48)
  else if 'a' ≤ c && c ≤ 'f' then some (c.toNat - 87)
  else if 'A' ≤ c && c ≤ 'F' then some (c.toNat - 55)
  else none

/-- The value of the first `n` characters as hexadecimal digits. -/
def hexValue? (n : Nat) (cs : List Char) : Option Nat :=
  if cs.length < n then none
  else (cs.take n).foldl (fun v c => v.bind fun v => (hexDigit? c).map (v * 16 + ·)) (some 0)

/-- The character a backslash starts, at which the cursor stands. -/
def escape (context : Nat) (c : Cursor) : Except SyntaxError (Char × Cursor) :=
  match c.peek? 1 with
  | none => .error (c.error context "found unknown escape character")
  | some x =>
    match escapes.lookup x, codeLength? x with
    | some n, _ => .ok (Char.ofNat n, c.skipMany 2)
    | none, none => .error (c.error context "found unknown escape character")
    | none, some count =>
      let after := c.skipMany 2
      match hexValue? count after.rest with
      | none => .error (after.error context "did not find expected hexdecimal number")
      | some n =>
        if (0xD800 ≤ n && n ≤ 0xDFFF) || n > 0x10FFFF then
          .error (after.error context "found invalid Unicode character escape code")
        else .ok (Char.ofNat n, after.skipMany count)

/-- The part of a quoted text up to a blank, a line break or the closing quote. The answer tells also whether it ended with
an escaped line break. -/
def quotedPart (single : Bool) (context : Nat) : Nat → Cursor → Except SyntaxError (List Char × Bool × Cursor)
  | 0, c => .ok ([], false, c)
  | fuel + 1, c =>
    match c.head? with
    | none => .ok ([], false, c)
    | some x =>
      if c.gapAt 0 then .ok ([], false, c)
      else if single && x = '\'' && c.peek? 1 = some '\'' then do
        let (more, broken, after) ← quotedPart single context fuel (c.skipMany 2)
        return ('\'' :: more, broken, after)
      else if (single && x = '\'') || (!single && x = '"') then .ok ([], false, c)
      else if !single && x = '\\' && c.breakAt 1 then .ok ([], true, c.skip.skipBreak)
      else if !single && x = '\\' then do
        let (y, after) ← escape context c
        let (more, broken, after) ← quotedPart single context fuel after
        return (y :: more, broken, after)
      else do
        let (more, broken, after) ← quotedPart single context fuel c.skip
        return (x :: more, broken, after)

/-- The gap after a part of a quoted text. -/
def quotedGap : Nat → Gap → Cursor → Gap × Cursor
  | 0, g, c => (g, c)
  | fuel + 1, g, c =>
    match c.head? with
    | none => (g, c)
    | some x =>
      if isBlank x then quotedGap fuel (g.addBlank x) c.skip
      else if isBreak x then
        let (text, after) := c.readBreak
        quotedGap fuel (g.addBreak text) after
      else (g, c)

/-- The rest of a quoted text, up to and including the closing quote. -/
def quotedFrom (single : Bool) (context : Nat) : Nat → Cursor → Except SyntaxError (List Char × Cursor)
  | 0, c => .error (c.error context "found unexpected end of stream")
  | fuel + 1, c => do
    if c.atMarker then throw (c.error context "found unexpected document indicator")
    if c.atEnd then throw (c.error context "found unexpected end of stream")
    let (part, broken, after) ← quotedPart single context c.rest.length c
    if after.startsWith (if single then '\'' else '"') then return (part, after.skip)
    let (g, after) := quotedGap after.rest.length ⟨[], [], [], broken⟩ after
    let (more, after) ← quotedFrom single context fuel after
    return (part ++ g.folded ++ more, after)

/-- A quoted text, at whose opening quote the cursor stands. -/
def quoted (single : Bool) (c : Cursor) : Except SyntaxError (List Char × Cursor) :=
  quotedFrom single c.line (c.rest.length + 1) c.skip

/-! ## Blocks -/

/-- What happens to the line breaks at the end of a block. -/
inductive Chomping where
  | strip
  | clip
  | keep
deriving DecidableEq, Repr

/-- The sign for a way of chomping. -/
def chomping? (c : Cursor) : Option Chomping :=
  if c.startsWith '+' then some .keep else if c.startsWith '-' then some .strip else none

/-- A digit for the indentation, if one is here. -/
def increment (context : Nat) (c : Cursor) : Except SyntaxError (Nat × Cursor) :=
  match c.head? with
  | none => .ok (0, c)
  | some x =>
    if x = '0' then .error (c.error context "found an indentation indicator equal to 0")
    else if x.isDigit then .ok (x.toNat - 48, c.skip)
    else .ok (0, c)

/-- The signs after the indicator of a block: how it is chomped, and by how much it is indented or zero. -/
def blockHeader (context : Nat) (c : Cursor) : Except SyntaxError (Chomping × Nat × Cursor) := do
  match chomping? c with
  | some chomping =>
    let (n, after) ← increment context c.skip
    return (chomping, n, after)
  | none =>
    let (n, after) ← increment context c
    match if n = 0 then none else chomping? after with
    | some chomping => return (chomping, n, after.skip)
    | none => return (.clip, n, after)

/-- The empty lines and the indentation in front of a line of a block. `indent` is zero while it is not known. The answer is
the line breaks, and the widest indentation met. -/
def blockBreaks (indent : Nat) (context : Nat) : Nat → Nat → Cursor → Except SyntaxError (List Char × Nat × Cursor)
  | 0, widest, c => .ok ([], widest, c)
  | fuel + 1, widest, c =>
    let blanks := (c.rest.takeWhile (· = ' ')).length
    let c := c.skipMany (if indent = 0 then blanks else min blanks (indent - c.column))
    let widest := max widest c.column
    if (indent = 0 || c.column < indent) && c.startsWith '\t' then
      .error (c.error context "found a tab character where an indentation space is expected")
    else if !c.breakAt 0 then .ok ([], widest, c)
    else do
      let (text, after) := c.readBreak
      let (more, widest, after) ← blockBreaks indent context fuel widest after
      return (text ++ more, widest, after)

/-- The lines of a block, where `first` is the line break before the line here, `breaks` what empty lines follow it, and
`spaced` whether the line before started with a blank. The answer is the text, and the line breaks at its end. -/
def blockLines (literal : Bool) (indent : Nat) (context : Nat) :
    Nat → List Char → List Char → Bool → Cursor → Except SyntaxError (List Char × List Char × List Char × Cursor)
  | 0, first, breaks, _, c => .ok ([], first, breaks, c)
  | fuel + 1, first, breaks, spaced, c =>
    if c.column ≠ indent || c.atEnd then .ok ([], first, breaks, c)
    else do
      let blank := c.blankAt 0
      let joint :=
        if !literal && !spaced && !blank && first.head? = some '\n' then if breaks.isEmpty then [' '] else breaks
        else first ++ breaks
      let (text, after) := c.readWhile fun _ => true
      let (first, after) := after.readBreak
      let (breaks, _, after) ← blockBreaks indent context (after.rest.length + 1) 0 after
      let (more, first, breaks, after) ← blockLines literal indent context fuel first breaks blank after
      return (joint ++ text ++ more, first, breaks, after)

/-- A block text, at whose indicator the cursor stands, inside a block of indentation `outer`. -/
def block (literal : Bool) (outer : Int) (c : Cursor) : Except SyntaxError (List Char × Cursor) := do
  let context := c.line
  let (chomping, n, after) ← blockHeader context c.skip
  let after := after.skipWhile isBlank
  let after := if after.startsWith '#' then after.skipLine else after
  if !after.lineEnds then throw (after.error context "did not find expected comment or line break")
  let after := after.skipBreak
  let given := if n = 0 then 0 else if outer ≥ 0 then outer.toNat + n else n
  let (breaks, widest, after) ← blockBreaks given context (after.rest.length + 1) 0 after
  let indent := if given = 0 then max (max widest (outer + 1).toNat) 1 else given
  let (text, first, breaks, after) ← blockLines literal indent context (after.rest.length + 1) [] breaks false after
  let tail := match chomping with
    | .strip => []
    | .clip => first
    | .keep => first ++ breaks
  return (text ++ tail, after)

end Scalar

end SimPhonebook.Yaml
