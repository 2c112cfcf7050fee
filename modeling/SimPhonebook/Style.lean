import SimPhonebook.Text.Wrap

/-!
# Styled text

Output is styled by role. Rendering replaces tabs by four blanks and ends lines with a line feed only. Text of several
lines becomes a block: every line is filled up with blanks to the widest. A label has a width of its own: longer lines are
wrapped, shorter ones filled up.
With color, each line stands between the codes of its style and a reset; the filling stays outside.
-/

namespace SimPhonebook

inductive Style where
  | title | label | value | index | success | error | muted | spinner
deriving DecidableEq, Repr

namespace Style

/-- The terminal codes of the style. -/
def codes : Style → Text
  | title | index => "1;94"
  | label | muted => "90"
  | value | success => "92"
  | error => "91"
  | spinner => "94"

/-- The columns a block of the style takes, unless as many as it needs. -/
def width? : Style → Option Nat
  | label => some 18
  | _ => none

def lineFeed : UInt8 := 0x0A

/-- Tabs as four blanks. -/
def expandTabs (data : Octets) : Octets :=
  data.flatMap fun b => if b = 0x09 then [0x20, 0x20, 0x20, 0x20] else [b]

/-- Line ends without carriage returns; a carriage return elsewhere stays. -/
def unifyBreaks : Octets → Octets
  | 0x0D :: 0x0A :: rest => 0x0A :: unifyBreaks rest
  | b :: rest => b :: unifyBreaks rest
  | [] => []

/-- A line in the colors of the style. -/
def paint (s : Style) (color : Bool) (line : Text) : Text :=
  if color then "\x1b[" ++ s.codes ++ "m" ++ line ++ "\x1b[0m" else line

/-- The lines as a block: painted, then filled up to the widest and to at least `least` columns. -/
def block (paint : Text → Text) (least : Nat) (lines : List Text) : Text :=
  let width := (lines.map Text.columns).foldl max least
  Text.join ⟨[lineFeed]⟩ (lines.map fun l => paint l ++ Text.blanks (width - l.columns))

def render (s : Style) (color : Bool) (t : Text) : Text :=
  let t : Text := ⟨unifyBreaks (expandTabs t.octets)⟩
  let wrapped := s.width?.elim t t.wrap
  block (s.paint color) (s.width?.getD 0) (Text.split lineFeed wrapped)

end Style

/-! ## Plain text -/

/-- Text that stays on one line and has no tab. -/
def Text.IsPlain (t : Text) : Prop := Style.lineFeed ∉ t.octets ∧ 0x09 ∉ t.octets

instance (t : Text) : Decidable t.IsPlain := inferInstanceAs (Decidable (_ ∧ _))

theorem Text.IsPlain.append {a b : Text} (ha : a.IsPlain) (hb : b.IsPlain) : (a ++ b).IsPlain := by
  simp only [IsPlain, octets_append, List.mem_append, not_or]
  exact ⟨⟨ha.1, hb.1⟩, ha.2, hb.2⟩

namespace Style

theorem expandTabs_of_not_mem {data : Octets} (h : 0x09 ∉ data) : expandTabs data = data := by
  induction data with
  | nil => rfl
  | cons b data ih =>
    have hb : b ≠ 0x09 := fun hb => h (hb ▸ List.mem_cons_self)
    have hrest := ih fun hmem => h (List.mem_cons_of_mem b hmem)
    rw [expandTabs] at hrest ⊢
    rw [List.flatMap_cons, if_neg hb, hrest]
    rfl

theorem unifyBreaks_of_not_mem {data : Octets} (h : lineFeed ∉ data) : unifyBreaks data = data := by
  fun_induction unifyBreaks data with
  | case1 rest ih => simp [lineFeed] at h
  | case2 b rest _ ih => rw [ih fun hmem => h (List.mem_cons_of_mem b hmem)]
  | case3 => rfl

/-- Rendering only paints plain text, unless the style has a width of its own. -/
theorem render_eq_paint {s : Style} (hs : s.width? = none) (color : Bool) {t : Text} (ht : t.IsPlain) :
    s.render color t = s.paint color t := by
  have hline : Text.split lineFeed t = [t] := by
    rw [Text.split, Text.splitOctets_of_not_mem ht.1]
    rfl
  simp only [render, expandTabs_of_not_mem ht.2, unifyBreaks_of_not_mem ht.1, hs, Option.elim_none, Option.getD_none, hline,
    block, List.map_singleton, List.foldl_cons, List.foldl_nil, Nat.zero_max, Nat.sub_self, Text.join]
  exact Text.append_empty _

theorem render_of_isPlain {s : Style} (hs : s.width? = none) {t : Text} (ht : t.IsPlain) : s.render false t = t :=
  render_eq_paint hs false ht

end Style

end SimPhonebook
