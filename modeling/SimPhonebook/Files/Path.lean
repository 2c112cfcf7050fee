import SimPhonebook.Text.Basic

/-!
# Paths

Paths as text, with a slash between their parts. Cleaning a path drops what does not matter for what it names: empty parts,
`.` and a part followed by `..`.
-/

namespace SimPhonebook.Path

def slash : UInt8 := 0x2F

def isAbsolute (p : Text) : Bool := p.octets.head? = some slash

def parts (p : Text) : List Text := p.split slash

/-- Adds a part to the cleaned parts before it, which stand in reverse. -/
def pushPart (absolute : Bool) (before : List Text) (part : Text) : List Text :=
  if part.isEmpty || part = "." then before
  else if part = ".." then
    match before with
    | last :: rest => if last = ".." then part :: before else rest
    | [] => if absolute then [] else [part]
  else part :: before

/-- The shortest path that names the same by its text alone. -/
def clean (p : Text) : Text :=
  let kept := ((parts p).foldl (pushPart (isAbsolute p)) []).reverse
  let joined := Text.join "/" kept
  if isAbsolute p then "/" ++ joined else if kept.isEmpty then "." else joined

/-- The paths one below the other, cleaned. Empty ones do not count. -/
def join (ps : List Text) : Text :=
  match ps.filter fun p => !p.isEmpty with
  | [] => Text.empty
  | ps => clean (Text.join "/" ps)

end SimPhonebook.Path
