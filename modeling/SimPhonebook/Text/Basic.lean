import SimPhonebook.Text.Utf8

/-!
# Text

`Text` is what the program reads from its user and writes back: octets meant as UTF-8, kept as they are where they are
not. String literals are text, so messages are written as `"error: " ++ reason`.
-/

namespace SimPhonebook

structure Text where
  octets : Octets
deriving DecidableEq, Repr

namespace Text

def ofChars (cs : List Char) : Text := ⟨Utf8.ofChars cs⟩

def ofString (s : String) : Text := ofChars s.toList

instance : Coe String Text := ⟨ofString⟩

def empty : Text := ⟨[]⟩

instance : EmptyCollection Text := ⟨empty⟩

instance : Inhabited Text := ⟨empty⟩

instance : Append Text := ⟨fun a b => ⟨a.octets ++ b.octets⟩⟩

@[simp] theorem octets_append (a b : Text) : (a ++ b).octets = a.octets ++ b.octets := rfl

@[simp] theorem octets_empty : (empty : Text).octets = [] := rfl

theorem empty_append (t : Text) : empty ++ t = t := rfl

theorem append_empty (t : Text) : t ++ empty = t := congrArg mk (List.append_nil _)

theorem append_assoc (a b c : Text) : a ++ b ++ c = a ++ (b ++ c) := congrArg mk (List.append_assoc ..)

def isEmpty (t : Text) : Bool := t.octets.isEmpty

theorem isEmpty_iff {t : Text} : t.isEmpty = true ↔ t = empty := by
  obtain ⟨data⟩ := t
  simp [isEmpty, empty]

/-- The number of octets. -/
def size (t : Text) : Nat := t.octets.length

/-- The characters a reader sees, a stray octet as U+FFFD. -/
def chars (t : Text) : List Char := Utf8.chars t.octets

def isValid (t : Text) : Bool := Utf8.isValid t.octets

/-- Every stray octet replaced by U+FFFD. -/
def repair (t : Text) : Text := ⟨Utf8.repair t.octets⟩

def concat (ts : List Text) : Text := ⟨ts.flatMap Text.octets⟩

/-- The texts in order with `sep` between neighbours. -/
def join (sep : Text) : List Text → Text
  | [] => empty
  | [t] => t
  | t :: ts => t ++ sep ++ join sep ts

/-- `n` blanks. -/
def blanks (n : Nat) : Text := ⟨List.replicate n 0x20⟩

def startsWith (t lead : Text) : Bool := lead.octets.isPrefixOf t.octets

/-- The text without its first `n` octets. -/
def dropOctets (t : Text) (n : Nat) : Text := ⟨t.octets.drop n⟩

/-- The octets between occurrences of `sep`: one part more than there are separators. -/
def splitOctets (sep : UInt8) : Octets → List Octets
  | [] => [[]]
  | b :: rest =>
    if b = sep then [] :: splitOctets sep rest
    else match splitOctets sep rest with
      | [] => [[b]]
      | part :: parts => (b :: part) :: parts

/-- The parts of the text between occurrences of `sep`. -/
def split (sep : UInt8) (t : Text) : List Text := (splitOctets sep t.octets).map Text.mk

theorem splitOctets_ne_nil (sep : UInt8) (s : Octets) : splitOctets sep s ≠ [] := by
  cases s with
  | nil => simp [splitOctets]
  | cons b rest =>
    rw [splitOctets]
    split
    · simp
    · split <;> simp

/-- There is one part more than there are separators. -/
theorem length_splitOctets (sep : UInt8) (s : Octets) : (splitOctets sep s).length = s.count sep + 1 := by
  induction s with
  | nil => rfl
  | cons b rest ih =>
    by_cases hb : b = sep
    · simp [splitOctets, hb, ih]
    · obtain ⟨part, parts, hparts⟩ := List.exists_cons_of_ne_nil (splitOctets_ne_nil sep rest)
      rw [splitOctets, if_neg hb, hparts, List.count_cons_of_ne hb, ← ih, hparts]
      rfl

/-- What stands in front of the first separator becomes part of the first part. -/
theorem splitOctets_append {sep : UInt8} {a : Octets} (h : sep ∉ a) {s part : Octets} {parts : List Octets}
    (hs : splitOctets sep s = part :: parts) : splitOctets sep (a ++ s) = (a ++ part) :: parts := by
  induction a with
  | nil => exact hs
  | cons b a ih =>
    have hb : b ≠ sep := fun hb => h (hb ▸ List.mem_cons_self)
    have ha := ih fun hmem => h (List.mem_cons_of_mem b hmem)
    rw [List.cons_append, splitOctets, if_neg hb, ha]
    rfl

theorem splitOctets_of_not_mem {sep : UInt8} {a : Octets} (h : sep ∉ a) : splitOctets sep a = [a] := by
  simpa using splitOctets_append h (s := []) rfl

theorem splitOctets_append_cons {sep : UInt8} {a : Octets} (h : sep ∉ a) (s : Octets) :
    splitOctets sep (a ++ sep :: s) = a :: splitOctets sep s := by
  rw [splitOctets_append h (s := sep :: s) (by rw [splitOctets, if_pos rfl]), List.append_nil]

/-- Parts that are each ended by the separator are found again. Behind the last separator nothing is left. -/
theorem splitOctets_flatMap {sep : UInt8} {parts : List Octets} (h : ∀ part ∈ parts, sep ∉ part) :
    splitOctets sep (parts.flatMap (· ++ [sep])) = parts ++ [[]] := by
  induction parts with
  | nil => rfl
  | cons part parts ih =>
    rw [List.flatMap_cons, List.append_assoc, List.singleton_append, splitOctets_append_cons (h part List.mem_cons_self),
      ih fun other hmem => h other (List.mem_cons_of_mem part hmem)]
    rfl

end Text

/-- What can be told to a user in one line of text. -/
class Described (α : Type) where
  message : α → Text

export Described (message)

instance : Described Text := ⟨id⟩

end SimPhonebook
