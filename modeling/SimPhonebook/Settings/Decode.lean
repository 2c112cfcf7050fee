import SimPhonebook.Settings.Basic
import SimPhonebook.Text.Quoted
import SimPhonebook.Yaml.Node

/-!
# Settings from a document

A document with settings is a mapping from the names of settings to their values. Unknown names do not matter, and a value
of nothing leaves the default. A value of the wrong type is a complaint; all complaints are collected. A mapping may take
over the pairs of others under the key `<<`: pairs of its own go first, then those of the others in order.

A few aliases can stand for very many pairs. So the nodes gone through are counted, and if nearly all of them are owed to
aliases the document is refused.
-/

namespace SimPhonebook.Settings

open Yaml (Node Document Value)

/-- Why the decoding of a document stops. -/
inductive DecodeFault where
  | tagMismatch (error : Yaml.TagMismatch)
  | invalidBase64
  /-- A node is merged into itself. -/
  | selfContaining (anchor : Text)
  | mergeNeedsMapping
  /-- A mapping that takes over others has a sequence or a mapping for a key. -/
  | collectionKey
  | excessiveAliasing
deriving DecidableEq, Repr

instance : Described DecodeFault where
  message
    | .tagMismatch e => message e
    | .invalidBase64 => "!!binary value contains invalid base64 data"
    | .selfContaining name => "anchor '" ++ name ++ "' value contains itself"
    | .mergeNeedsMapping => "map merge requires map or sequence of maps as the value"
    | .collectionKey => "map merge requires keys that are scalars"
    | .excessiveAliasing => "document contains excessive aliasing"

/-- Why a document gives no settings. -/
inductive FormatError where
  | document (error : Yaml.DocumentError)
  | fault (fault : DecodeFault)
  | complaints (lines : List Text)
deriving DecidableEq, Repr

instance : Described FormatError where
  message
    | .document e => "yaml: " ++ message e
    | .fault f => "yaml: " ++ message f
    | .complaints lines => "yaml: unmarshal errors:\n  " ++ Text.join "\n  " lines

/-! ## Complaints -/

/-- The text of a value in a complaint; a long one is cut. -/
def shownValue (value : Text) : Text :=
  if value.size > 10 then " `" ++ ⟨value.octets.take 7⟩ ++ "...`" else " `" ++ value ++ "`"

/-- A value cannot be used as a setting of a type. Under the tag of a collection it is shown as it is. -/
def wrongType (line : Nat) (tag value type : Text) : Text :=
  let shown := if tag = Yaml.Tag.sequence || tag = Yaml.Tag.mapping then value else shownValue value
  s!"line {line}: cannot unmarshal " ++ tag ++ shown ++ " into " ++ type

/-- What makes two keys the same: their kind and their text. -/
def keyText : Node → Nat × Text
  | .scalar _ _ value => (0, value)
  | .sequence _ _ _ => (1, Text.empty)
  | .mapping _ _ _ => (2, Text.empty)
  | .reference _ name _ _ => (3, name)

/-- The complaints about keys that repeat one before them. -/
def repeatedKeys : List (Node × Node) → List Text
  | [] => []
  | (k, _) :: rest =>
    (rest.filter fun (l, _) => keyText l = keyText k).map (fun (l, _) =>
      s!"line {l.line}: mapping key " ++ (keyText l).2.quoted ++ s!" already defined at line {k.line}") ++
    repeatedKeys rest

/-! ## Single values -/

/-- The node an alias stands for, or the node itself. -/
def deref (d : Document) : Node → Node
  | .reference line name number target => (d.anchored.lookup target).getD (.reference line name number target)
  | n => n

/-- The value of a scalar. -/
def valueOf (tag value : Text) : Except DecodeFault Value :=
  match Yaml.resolve tag value with
  | .error e => .error (.tagMismatch e)
  | .ok (found, v) =>
    if found = Yaml.Tag.binary then (Yaml.base64? value).elim (.error .invalidBase64) (.ok ∘ .text) else .ok v

/-- Any scalar can be taken as text. -/
def asText (value : Text) : Value → Option Text
  | .text t => some t
  | _ => some value

/-- Words for yes and no, which may be quoted. -/
def switchWords : List (Text × Bool) :=
  [("y", true), ("Y", true), ("yes", true), ("Yes", true), ("YES", true), ("on", true), ("On", true), ("ON", true),
    ("n", false), ("N", false), ("no", false), ("No", false), ("NO", false), ("off", false), ("Off", false),
    ("OFF", false)]

def asBool (_ : Text) : Value → Option Bool
  | .bool b => some b
  | .text t => switchWords.lookup t
  | _ => none

def asDuration (_ : Text) : Value → Option Duration
  | .text t => Duration.parse? t
  | _ => none

/-! ## The settings -/

inductive Field where
  | device | verbose | openTimeout | noOpen | noClose | noProgress
deriving DecidableEq, Repr

def Field.ofName? (name : Text) : Option Field :=
  [(("device" : Text), Field.device), ("verbose", .verbose), ("open_timeout", .openTimeout), ("no_open", .noOpen),
    ("no_close", .noClose), ("no_progress", .noProgress)].lookup name

/-- How many nodes were gone through, and how many of them inside an alias. -/
structure Effort where
  steps : Nat
  aliased : Nat
deriving Repr

/-- Whether too large a part is owed to aliases. Up to 400000 steps 99 in 100 are allowed, from 4000000 on 10 in 100, and
between them the share falls evenly. -/
def Effort.isExcessive (e : Effort) : Bool :=
  let low := 400000
  let range := 3600000
  let share := 99 * range - 89 * min (e.steps - low) range
  e.aliased > 100 && e.steps > 1000 && e.aliased * (100 * range) > e.steps * share

/-- The settings so far, the complaints so far, and what it took. -/
structure Decoding where
  settings : Settings
  complaints : List Text
  effort : Effort
deriving Repr

namespace Decoding

/-- Before anything was read; the document itself counts as one step. -/
def start : Decoding := ⟨default, [], ⟨1, 0⟩⟩

def complain (s : Decoding) (lines : List Text) : Decoding := { s with complaints := s.complaints ++ lines }

/-- Counts a node. -/
def step (s : Decoding) (inAlias : Bool) : Except DecodeFault Decoding :=
  let effort : Effort := ⟨s.effort.steps + 1, s.effort.aliased + if inAlias then 1 else 0⟩
  if effort.isExcessive then .error .excessiveAliasing else .ok { s with effort := effort }

/-- Counts a node, and the one it stands for if it is an alias. -/
def visit (s : Decoding) (inAlias : Bool) : Node → Except DecodeFault Decoding
  | .reference _ _ _ _ => do (← s.step inAlias).step true
  | _ => s.step inAlias

/-- A value of a type, if the node gives one; else there may be a complaint. -/
def single {α : Type} (s : Decoding) (d : Document) (inAlias : Bool) (n : Node) (type : Text)
    (convert : Text → Value → Option α) : Except DecodeFault (Option α × Decoding) := do
  let s ← s.visit inAlias n
  match deref d n with
  | .scalar line tag value =>
    match ← valueOf tag value with
    | .null => return (none, s)
    | v => match convert value v with
      | some a => return (some a, s)
      | none => return (none, s.complain [wrongType line tag value type])
  | .sequence line tag _ => return (none, s.complain [wrongType line tag Text.empty type])
  | .mapping line tag pairs =>
    match repeatedKeys pairs with
    | [] => return (none, s.complain [wrongType line tag Text.empty type])
    | lines => return (none, s.complain lines)
  | .reference _ _ _ _ => return (none, s)

/-- Takes a value from a node as a setting. -/
def put {α : Type} (s : Decoding) (d : Document) (inAlias : Bool) (n : Node) (type : Text)
    (convert : Text → Value → Option α) (set : Settings → α → Settings) : Except DecodeFault Decoding := do
  match ← s.single d inAlias n type convert with
  | (some a, s) => return { s with settings := set s.settings a }
  | (none, s) => return s

def assign (s : Decoding) (d : Document) (inAlias : Bool) (n : Node) : Field → Except DecodeFault Decoding
  | .device => s.put d inAlias n "string" asText fun x a => { x with device := a }
  | .verbose => s.put d inAlias n "bool" asBool fun x a => { x with verbose := a }
  | .openTimeout => s.put d inAlias n "time.Duration" asDuration fun x a => { x with openTimeout := a }
  | .noOpen => s.put d inAlias n "bool" asBool fun x a => { x with noOpen := a }
  | .noClose => s.put d inAlias n "bool" asBool fun x a => { x with noClose := a }
  | .noProgress => s.put d inAlias n "bool" asBool fun x a => { x with noProgress := a }

end Decoding

/-- Whether a key takes over the pairs of other mappings. -/
def isMerge : Node → Bool
  | .scalar _ tag value => value = "<<" && tag = Yaml.Tag.merge
  | _ => false

/-- The pairs of a mapping that have been gone through. -/
structure Progress where
  state : Decoding
  /-- The names that have been used; kept only while mappings are merged. -/
  merged : Option (List Text)
  done : List Field
  /-- What the mapping takes over. -/
  source : Option Node

/-- Goes through one pair of a mapping. -/
def pair (d : Document) (inAlias : Bool) (p : Progress) (k v : Node) : Except DecodeFault Progress := do
  if isMerge k then return { p with source := some v }
  let (name, state) ← p.state.single d inAlias k "string" asText
  let p := { p with state := state }
  match name with
  | none => return p
  | some name =>
    if p.merged.any (·.contains name) then return p
    let p := { p with merged := p.merged.map (name :: ·) }
    match Field.ofName? name with
    | none => return p
    | some f =>
      if p.done.contains f then
        let line := s!"line {k.line}: field " ++ name ++ " already set in type config.Config"
        return { p with state := p.state.complain [line] }
      let state ← p.state.assign d inAlias v f
      return { p with state := state, done := f :: p.done }

/-- The names among the keys of a mapping. -/
def names (d : Document) (inAlias : Bool) (s : Decoding) :
    List (Node × Node) → Except DecodeFault (List Text × Decoding)
  | [] => .ok ([], s)
  | (k, _) :: rest => do
    let s ← s.visit inAlias k
    let (name, s) ← match deref d k with
      | .scalar _ tag value => do
        match ← valueOf tag value with
        | .text t => pure ([t], s)
        | _ => pure ([], s)
      | .mapping _ _ pairs =>
        if (repeatedKeys pairs).isEmpty then throw .collectionKey else pure ([], s.complain (repeatedKeys pairs))
      | .sequence _ _ _ => throw .collectionKey
      | .reference _ _ _ _ => pure ([], s)
    let (more, s) ← names d inAlias s rest
    return (name ++ more, s)

def isMapping (d : Document) (n : Node) : Bool :=
  match deref d n with
  | .mapping _ _ _ => true
  | _ => false

/-- What a mapping takes over: one mapping, or several in a sequence. -/
def sources : Node → List Node
  | .sequence _ _ items => items
  | n => [n]

/-- Takes the settings from a node. `visited` are the aliases on the way to it. -/
def decodeNode (d : Document) :
    Nat → List Nat → Option (List Text) → Node → Decoding → Except DecodeFault (Decoding × Option (List Text))
  | 0, _, merged, _, s => .ok (s, merged)
  | fuel + 1, visited, merged, n, s => do
    let s ← s.visit (!visited.isEmpty) n
    let visited ← match n with
      | .reference _ name number _ =>
        if visited.contains number then throw (.selfContaining name) else pure (number :: visited)
      | _ => pure visited
    match deref d n with
    | .scalar line tag value =>
      match ← valueOf tag value with
      | .null => return (s, merged)
      | _ => return (s.complain [wrongType line tag value "config.Config"], merged)
    | .sequence line tag _ => return (s.complain [wrongType line tag Text.empty "config.Config"], merged)
    | .reference _ _ _ _ => return (s, merged)
    | .mapping _ _ pairs =>
      match repeatedKeys pairs with
      | [] =>
        let inAlias := !visited.isEmpty
        let p ← pairs.foldlM (fun p (k, v) => pair d inAlias p k v) ⟨s, merged, [], none⟩
        match p.source with
        | none => return (p.state, p.merged)
        | some source =>
          let (used, s) ← match p.merged with
            | some used => pure (used, p.state)
            | none => names d inAlias p.state pairs
          let (s, used) ← (sources source).foldlM (fun (s, used) n => do
            if !isMapping d n then throw .mergeNeedsMapping
            let (s, used') ← decodeNode d fuel visited (some used) n s
            return (s, used'.getD used)) (s, used)
          return (s, p.merged.map fun _ => used)
      | lines => return (s.complain lines, merged)

/-- More steps than any way through a document has: no alias is passed twice, and between two of them it goes down. -/
def Document.bound (d : Document) : Nat := (d.root.size + 1) * (d.root.size + 1)

/-- The settings in a file, on top of the defaults. -/
def parse (data : Octets) : Except FormatError Settings :=
  match Document.parse data with
  | .error e => .error (.document e)
  | .ok none => .ok default
  | .ok (some d) =>
    match decodeNode d (Document.bound d) [] none d.root .start with
    | .error f => .error (.fault f)
    | .ok (s, _) => if s.complaints.isEmpty then .ok s.settings else .error (.complaints s.complaints)

end SimPhonebook.Settings
