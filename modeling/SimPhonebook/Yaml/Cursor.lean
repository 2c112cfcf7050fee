import SimPhonebook.Yaml.Source

/-!
# Reading position

A `Cursor` is what is left of a file and where it starts. Lines and columns count from zero. A line ends with CR, LF, both
together, or one of the Unicode line breaks. Readers look a few characters ahead, so a fault of the file is met before its
place is reached.
-/

namespace SimPhonebook.Yaml

structure Mark where
  index : Nat
  line : Nat
  column : Nat
deriving DecidableEq, Repr

/-- Why a file cannot be read. -/
inductive SyntaxError where
  | source (error : SourceError)
  /-- A problem, and the line it is blamed on, if that is told. -/
  | problem (line : Option Nat) (text : Text)
deriving DecidableEq, Repr

instance : Described SyntaxError where
  message
    | .source e => message e
    | .problem (some n) text => s!"line {n}: " ++ text
    | .problem none text => text

namespace SyntaxError

/-- The line to blame: that of the context unless it is the first, else that of the problem unless it is the first. -/
def blame (context problem : Nat) : Option Nat :=
  if context ≠ 0 then some context else if problem ≠ 0 then some problem else none

/-- A problem with characters. Lines are counted from one. -/
def ofCharacters (context problem : Nat) (text : Text) : SyntaxError :=
  .problem ((blame context problem).map (· + 1)) text

/-- A problem with the structure. Lines are told as counted from zero. -/
def ofStructure (context problem : Nat) (text : Text) : SyntaxError := .problem (blame context problem) text

end SyntaxError

/-! ## Classes of characters -/

def isBreak (c : Char) : Bool := c = '\r' || c = '\n' || c = '\u0085' || c = '\u2028' || c = '\u2029'

def isBlank (c : Char) : Bool := c = ' ' || c = '\t'

def isWordChar (c : Char) : Bool := c.isAlphanum || c = '_' || c = '-'

structure Cursor where
  rest : List Char
  mark : Mark
  /-- Whether nothing but blanks was read since the last line break. -/
  fresh : Bool
  /-- What is wrong with the file after `rest`. -/
  fault : Option SourceError
deriving Repr

namespace Cursor

def ofSource (source : Source) : Cursor := ⟨source.chars, ⟨0, 0, 0⟩, false, source.fault⟩

def line (c : Cursor) : Nat := c.mark.line

def column (c : Cursor) : Nat := c.mark.column

def head? (c : Cursor) : Option Char := c.rest.head?

/-- The character `n` places on. -/
def peek? (c : Cursor) (n : Nat) : Option Char := c.rest[n]?

def startsWith (c : Cursor) (x : Char) : Bool := c.head? = some x

def atEnd (c : Cursor) : Bool := c.rest.isEmpty

/-- Whether `n` places on there is a line break. -/
def breakAt (c : Cursor) (n : Nat) : Bool := (c.peek? n).any isBreak

/-- Whether `n` places on there is a blank. -/
def blankAt (c : Cursor) (n : Nat) : Bool := (c.peek? n).any isBlank

/-- Whether `n` places on there is a blank, a line break or the end. -/
def gapAt (c : Cursor) (n : Nat) : Bool := (c.peek? n).all fun x => isBlank x || isBreak x

/-- Whether the line or the file ends here. -/
def lineEnds (c : Cursor) : Bool := c.head?.all isBreak

/-- Past one character, which does not count as a line break. -/
def skip (c : Cursor) : Cursor :=
  match c.rest with
  | [] => c
  | x :: rest =>
    { c with
      rest := rest
      mark := ⟨c.mark.index + 1, c.mark.line, c.mark.column + 1⟩
      fresh := c.fresh && isBlank x }

def skipMany (c : Cursor) : Nat → Cursor
  | 0 => c
  | n + 1 => c.skip.skipMany n

/-- At the start of the next line, `count` characters on. -/
def nextLine (c : Cursor) (count : Nat) : Cursor :=
  { c with rest := c.rest.drop count, mark := ⟨c.mark.index + count, c.mark.line + 1, 0⟩, fresh := true }

/-- Past a line break, with the text it stands for. -/
def readBreak (c : Cursor) : List Char × Cursor :=
  match c.rest with
  | '\r' :: '\n' :: _ => (['\n'], c.nextLine 2)
  | x :: _ =>
    if isBreak x then (if x = '\u2028' || x = '\u2029' then [x] else ['\n'], c.nextLine 1) else ([], c)
  | [] => ([], c)

def skipBreak (c : Cursor) : Cursor := c.readBreak.2

/-- The characters at the front that satisfy `p`, none of them a line break, and the place after them. -/
def readWhile (c : Cursor) (p : Char → Bool) : List Char × Cursor :=
  let taken := c.rest.takeWhile fun x => p x && !isBreak x
  (taken, c.skipMany taken.length)

def skipWhile (c : Cursor) (p : Char → Bool) : Cursor := (c.readWhile p).2

/-- To the end of the line. -/
def skipLine (c : Cursor) : Cursor := c.skipWhile fun _ => true

/-- Whether a document marker of three characters `x` starts here. -/
def markerAt (c : Cursor) (x : Char) : Bool :=
  c.column = 0 && c.peek? 0 = some x && c.peek? 1 = some x && c.peek? 2 = some x && c.gapAt 3

/-- Whether a document starts or ends here. -/
def atMarker (c : Cursor) : Bool := c.markerAt '-' || c.markerAt '.'

/-- The fault of the file, if fewer than four characters are left before it. -/
def faultAhead (c : Cursor) : Option SourceError := c.fault.filter fun _ => (c.rest.drop 3).isEmpty

/-- The error at this place of what started in line `context`. -/
def error (c : Cursor) (context : Nat) (text : Text) : SyntaxError :=
  match c.faultAhead with
  | some e => .source e
  | none => .ofCharacters context c.line text

/-- An error with no context but its place. -/
def errorHere (c : Cursor) (text : Text) : SyntaxError := c.error c.line text

end Cursor

end SimPhonebook.Yaml
