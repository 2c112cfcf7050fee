import SimPhonebook.HexDump
import SimPhonebook.Proofs.FragmentShape
import SimPhonebook.Proofs.Numerals
import SimPhonebook.Style

/-!
# What a hex dump tells

A dump can be read: a line has its offset in front, then groups of two digits up to the first bar, then characters up to the
last (`HexDump.readLine`). The octets read from all lines are those that were dumped (`HexDump.read_hexDump`), so different
octets have different dumps. `HexDump.hexDump_loses_nothing` says this together with the shape of the lines.

No bar stands in front of the opening one, although bars may follow it in the characters: what is in front are digits and
blanks only (`HexDump.not_mem_front`). Whether a line is short or not does not matter for the groups, since blanks are all
that fills it up.
-/

namespace SimPhonebook.HexDump

open Style (lineFeed)

/-! ## Reading a line -/

def blank : UInt8 := 0x20

def bar : UInt8 := 0x7C

/-- The place of the first bar. -/
def barColumn (line : Octets) : Nat := line.idxOf bar

/-- What stands in front of the first blank. -/
def offsetDigits (line : Octets) : Octets := line.takeWhile (· ≠ blank)

/-- What stands between the offset and the first bar. -/
def hexPart (line : Octets) : Octets := (line.take (barColumn line)).drop (offsetDigits line).length

/-- What stands between the first bar and the last character. -/
def textPart (line : Octets) : Octets := (line.drop (barColumn line + 1)).dropLast

/-- The groups between blanks. -/
def groups (s : Octets) : List Octets := (Text.splitOctets blank s).filter (· ≠ [])

/-- The octet of a group of two digits. -/
def readGroup (group : Octets) : Option UInt8 :=
  if group.length = 2 then (Integer.digits? 16 group).map UInt8.ofNat else none

/-- The octets of a line. -/
def readLine (line : Octets) : Option Octets := (groups (hexPart line)).mapM readGroup

/-- The octets of a dump. After the last line feed nothing follows. -/
def read (t : Text) : Option Octets := ((Text.splitOctets lineFeed t.octets).dropLast.mapM readLine).map List.flatten

/-! ## Groups of digits -/

theorem groups_blank (s : Octets) : groups (blank :: s) = groups s := by
  simp [groups, Text.splitOctets]

theorem groups_append {group : Octets} (hblank : blank ∉ group) (hne : group ≠ []) (s : Octets) :
    groups (group ++ blank :: s) = group :: groups s := by
  rw [groups, Text.splitOctets_append_cons hblank, List.filter_cons_of_pos (by simpa using hne), groups]

theorem not_mem_of_digits? {ds : Octets} {n : Nat} (h : Integer.digits? 16 ds = some n) {b : UInt8}
    (hb : Integer.digit? 16 b = none) : b ∉ ds := by
  intro hmem
  have hsome := Numeral.isSome_digit?_of_mem h hmem
  rw [hb] at hsome
  cases hsome

theorem groups_column (o : Option UInt8) (s : Octets) : groups (column o ++ s) = o.toList.map Numeral.hexOctet ++ groups s := by
  cases o with
  | none => exact (groups_blank _).trans ((groups_blank _).trans (groups_blank s))
  | some b =>
    have hblank : blank ∉ Numeral.hexOctet b := not_mem_of_digits? (Numeral.digits?_hexOctet b) (by decide)
    rw [column, List.append_assoc]
    exact groups_append hblank (by simp [Numeral.hexOctet]) s

theorem groups_flatMap_column (f : Nat → Option UInt8) (places : List Nat) (s : Octets) :
    groups (places.flatMap (fun j => column (f j)) ++ s) = (places.filterMap f).map Numeral.hexOctet ++ groups s := by
  induction places with
  | nil => rfl
  | cons j places ih =>
    rw [List.flatMap_cons, List.append_assoc, groups_column, ih]
    cases hj : f j with
    | none => simp [hj]
    | some b => simp [hj]

theorem filterMap_getElem?_range (row : Octets) (n : Nat) : (List.range n).filterMap (fun j => row[j]?) = row.take n := by
  induction n with
  | zero => rfl
  | succ n ih =>
    rw [List.range_succ, List.filterMap_append, ih, List.take_add_one]
    cases hn : row[n]? <;> simp [hn]

/-- The groups of the hexadecimal part of a line are those of its octets, one after the other. -/
theorem groups_columns {row : Octets} (h : row.length ≤ lineSize) :
    groups ([blank, blank] ++ columns row ++ [blank]) = row.map Numeral.hexOctet := by
  have hsecond : (fun j => row[8 + j]?) = fun j => (row.drop 8)[j]? := by
    funext j
    rw [List.getElem?_drop]
  have hrow : row.take 8 ++ (row.drop 8).take 8 = row := by
    have hrest : (row.drop 8).length ≤ 8 := by
      rw [List.length_drop]
      exact Nat.sub_le_of_le_add h
    rw [List.take_of_length_le hrest, List.take_append_drop]
  have hend : groups [blank] = [] := by decide
  have hcolumns : [blank, blank] ++ columns row ++ [blank] =
      blank :: blank :: ((List.range 8).flatMap (fun j => column row[j]?) ++
        blank :: ((List.range 8).flatMap (fun j => column row[8 + j]?) ++ [blank])) := by
    simp [columns, blank]
  rw [hcolumns, groups_blank, groups_blank, groups_flatMap_column (fun j => row[j]?), groups_blank,
    groups_flatMap_column (fun j => row[8 + j]?), hend, List.append_nil, hsecond, filterMap_getElem?_range,
    filterMap_getElem?_range, ← List.map_append, hrow]

theorem readGroup_hexOctet (b : UInt8) : readGroup (Numeral.hexOctet b) = some b := by
  have hlength : (Numeral.hexOctet b).length = 2 := rfl
  rw [readGroup, if_pos hlength, Numeral.digits?_hexOctet, Option.map_some, UInt8.ofNat_toNat]

theorem mapM_readGroup (row : Octets) : (row.map Numeral.hexOctet).mapM readGroup = some row := by
  induction row with
  | nil => rfl
  | cons b row ih =>
    rw [List.map_cons, List.mapM_cons, readGroup_hexOctet, ih]
    rfl

/-! ## The parts of a line -/

/-- A line up to its opening bar. -/
def front (offset : Nat) (row : Octets) : Octets :=
  (Numeral.hex 4 offset).octets ++ ([blank, blank] ++ columns row ++ [blank])

theorem line_eq (offset : Nat) (row : Octets) : line offset row = front offset row ++ bar :: (row.map shown ++ [bar]) := by
  simp [line, front, blank, bar]

section
variable {b : UInt8} (hblank : b ≠ blank) (hdigit : Integer.digit? 16 b = none)
include hblank hdigit

theorem not_mem_columns (row : Octets) : b ∉ columns row := by
  have hcolumn : ∀ o : Option UInt8, b ∉ column o := by
    intro o
    cases o with
    | none => simpa [column, blank] using hblank
    | some c =>
      rw [column, List.mem_append, List.mem_singleton, not_or]
      exact ⟨not_mem_of_digits? (Numeral.digits?_hexOctet c) hdigit, hblank⟩
  simp only [columns, List.mem_append, List.mem_flatMap, List.mem_singleton]
  rintro ((⟨j, -, hj⟩ | hgap) | ⟨j, -, hj⟩)
  · exact hcolumn _ hj
  · exact hblank hgap
  · exact hcolumn _ hj

/-- In front of the opening bar there are digits and blanks only. -/
theorem not_mem_front (offset : Nat) (row : Octets) : b ∉ front offset row := by
  have hoffset : b ∉ (Numeral.hex 4 offset).octets := not_mem_of_digits? (Numeral.digits?_hex 4 offset) hdigit
  simp only [front, List.mem_append, List.mem_cons, List.not_mem_nil, or_false, not_or]
  exact ⟨hoffset, ⟨⟨hblank, hblank⟩, not_mem_columns hblank hdigit row⟩, hblank⟩

end

theorem barColumn_line (offset : Nat) (row : Octets) : barColumn (line offset row) = (front offset row).length := by
  have hbar : bar ∉ front offset row := not_mem_front (by decide) (by decide) offset row
  rw [barColumn, line_eq, List.idxOf_append_of_notMem hbar, List.idxOf_cons_self, Nat.add_zero]

theorem offsetDigits_line (offset : Nat) (row : Octets) :
    offsetDigits (line offset row) = (Numeral.hex 4 offset).octets := by
  have hdigits : ∀ b ∈ (Numeral.hex 4 offset).octets, decide (b ≠ blank) = true := by
    intro b hb
    have hblank : blank ∉ (Numeral.hex 4 offset).octets := not_mem_of_digits? (Numeral.digits?_hex 4 offset) (by decide)
    exact decide_eq_true fun h => hblank (h ▸ hb)
  rw [offsetDigits, line_eq, front, List.append_assoc, List.takeWhile_append_of_pos hdigits]
  simp

theorem hexPart_line (offset : Nat) (row : Octets) :
    hexPart (line offset row) = [blank, blank] ++ columns row ++ [blank] := by
  rw [hexPart, barColumn_line, offsetDigits_line, line_eq, List.take_left, front, List.drop_left]

theorem textPart_line (offset : Nat) (row : Octets) : textPart (line offset row) = row.map shown := by
  have hdrop : (line offset row).drop ((front offset row).length + 1) = row.map shown ++ [bar] := by
    rw [line_eq, ← List.drop_drop, List.drop_left]
    rfl
  rw [textPart, barColumn_line, hdrop, List.dropLast_concat]

/-- **A line tells its octets.** -/
theorem readLine_line (offset : Nat) {row : Octets} (h : row.length ≤ lineSize) : readLine (line offset row) = some row := by
  rw [readLine, hexPart_line, groups_columns h, mapM_readGroup]

theorem lineFeed_not_mem_line (offset : Nat) (row : Octets) : lineFeed ∉ line offset row := by
  rw [line_eq, List.mem_append, List.mem_cons, List.mem_append, List.mem_map, List.mem_singleton]
  rintro (hfront | hbar | ⟨b, -, hb⟩ | hbar)
  · exact not_mem_front (by decide) (by decide) offset row hfront
  · exact absurd hbar (by decide)
  · -- A line feed is not printable, so it is not shown as itself.
    rw [shown] at hb
    split at hb
    · rename_i hprintable
      rw [hb] at hprintable
      exact absurd hprintable (by decide)
    · exact absurd hb (by decide)
  · exact absurd hbar (by decide)

theorem length_columns (row : Octets) : (columns row).length = 49 := by
  have hcolumn : ∀ o : Option UInt8, (column o).length = 3 := by
    intro o
    cases o <;> rfl
  simp [columns, List.range, List.range.loop, hcolumn]

/-- The place of the opening bar does not depend on how many octets the line has. -/
theorem barColumn_line_of_lt {offset : Nat} (h : offset < 65536) (row : Octets) : barColumn (line offset row) = 56 := by
  have hoffset : (Numeral.hex 4 offset).octets.length = 4 := Numeral.length_hex_of_lt (by decide) h
  simp [barColumn_line, front, hoffset, length_columns]

/-! ## The lines of a dump -/

/-- The octets of line `k`. -/
def block (data : Octets) (k : Nat) : Octets := (data.drop (k * lineSize)).take lineSize

theorem rows_eq_chunks (data : Octets) : rows data = chunks lineSize data := by
  fun_induction rows data with
  | case1 => simp [chunks]
  | case2 data h ih => rw [chunks_eq_cons (by decide) h, ih]

theorem getElem?_lines (offset : Nat) (rs : List Octets) (k : Nat) :
    (lines offset rs)[k]? = rs[k]?.map (line (offset + k * lineSize)) := by
  induction rs generalizing offset k with
  | nil => rfl
  | cons row rs ih =>
    cases k with
    | zero => simp [lines]
    | succ k =>
      rw [lines, List.getElem?_cons_succ, List.getElem?_cons_succ, ih, Nat.succ_mul, Nat.add_comm (k * lineSize),
        Nat.add_assoc]

theorem length_lines (offset : Nat) (rs : List Octets) : (lines offset rs).length = rs.length := by
  induction rs generalizing offset with
  | nil => rfl
  | cons row rs ih => rw [lines, List.length_cons, List.length_cons, ih]

/-- Line `k` of a dump is there if the data reach so far, and is made of its octets. -/
theorem getElem?_lines_rows_eq_some_iff {data : Octets} {k : Nat} {l : Octets} :
    (lines 0 (rows data))[k]? = some l ↔ k * lineSize < data.length ∧ line (k * lineSize) (block data k) = l := by
  rw [getElem?_lines, rows_eq_chunks, getElem?_chunks (by decide), Nat.zero_add]
  by_cases h : k * lineSize < data.length
  · simp [h, block]
  · simp [h]

theorem mapM_readLine (offset : Nat) {rs : List Octets} (h : ∀ row ∈ rs, row.length ≤ lineSize) :
    (lines offset rs).mapM readLine = some rs := by
  induction rs generalizing offset with
  | nil => rfl
  | cons row rs ih =>
    rw [lines, List.mapM_cons, readLine_line offset (h row List.mem_cons_self),
      ih (offset + lineSize) fun other hmem => h other (List.mem_cons_of_mem row hmem)]
    rfl

theorem mapM_readLine_rows (data : Octets) : ((lines 0 (rows data)).mapM readLine).map List.flatten = some data := by
  have hrows : ∀ row ∈ rows data, row.length ≤ lineSize := by
    intro row hrow
    obtain ⟨k, hk⟩ := List.mem_iff_getElem?.1 hrow
    rw [rows_eq_chunks] at hk
    exact (length_of_getElem?_chunks hk).2.1
  rw [mapM_readLine 0 hrows, Option.map_some, rows_eq_chunks, flatten_chunks (by decide)]

theorem splitOctets_hexDump (data : Octets) :
    Text.splitOctets lineFeed (hexDump data).octets = lines 0 (rows data) ++ [[]] := by
  refine Text.splitOctets_flatMap fun l hl => ?_
  obtain ⟨k, hk⟩ := List.mem_iff_getElem?.1 hl
  obtain ⟨-, rfl⟩ := getElem?_lines_rows_eq_some_iff.1 hk
  exact lineFeed_not_mem_line _ _

/-- **A dump tells its octets.** -/
theorem read_hexDump (data : Octets) : read (hexDump data) = some data := by
  rw [read, splitOctets_hexDump, List.dropLast_concat, mapM_readLine_rows]

/-- What line `k` of the dump of `data` shows: the offset, in at least four digits, the octets, and behind the opening bar
one character for each of them, up to the closing bar. -/
structure Renders (data : Octets) (k : Nat) (line : Octets) : Prop where
  offset : Integer.digits? 16 (offsetDigits line) = some (16 * k)
  wide : 4 ≤ (offsetDigits line).length
  octets : readLine line = some (block data k)
  text : textPart line = (block data k).map fun b => if 0x20 ≤ b ∧ b ≤ 0x7E then b else 0x2E
  closed : line.getLast? = some bar

theorem shown_eq (b : UInt8) : shown b = if 0x20 ≤ b ∧ b ≤ 0x7E then b else 0x2E := by
  have hprintable : (32 ≤ b && b < 127) = true ↔ 0x20 ≤ b ∧ b ≤ 0x7E := by
    simp only [Bool.and_eq_true, decide_eq_true_eq, UInt8.le_iff_toNat_le, UInt8.lt_iff_toNat_lt, UInt8.reduceToNat]
    omega
  rw [shown]
  simp only [hprintable]

theorem renders_line (data : Octets) (k : Nat) : Renders data k (line (k * lineSize) (block data k)) where
  offset := by
    rw [offsetDigits_line, Numeral.digits?_hex, Nat.mul_comm]
    rfl
  wide := by
    rw [offsetDigits_line]
    exact Numeral.width_le_length_hex 4 _
  octets := readLine_line _ (List.length_take_le _ _)
  text := by
    rw [textPart_line]
    exact List.map_congr_left fun b _ => shown_eq b
  closed := by
    rw [line_eq, ← List.cons_append, ← List.append_assoc]
    exact List.getLast?_concat

/-- **A dump loses nothing.** It has a line for every sixteen octets begun, each ended by a line feed. Line `k` shows the offset
`16 * k`, the octets from there on and their characters, and the octets of all lines are the data. Up to 65536 octets the
opening bars stand in one column. Other octets have another dump. -/
theorem hexDump_loses_nothing (data : Octets) :
    ∃ lines : List Octets,
      Text.splitOctets lineFeed (hexDump data).octets = lines ++ [[]] ∧
      lines.length = (data.length + 15) / 16 ∧
      (∀ k line, lines[k]? = some line → Renders data k line) ∧
      (lines.mapM readLine).map List.flatten = some data ∧
      (data.length ≤ 65536 → ∀ line ∈ lines, barColumn line = 56) ∧
      ∀ data' : Octets, hexDump data' = hexDump data → data' = data := by
  refine ⟨lines 0 (rows data), splitOctets_hexDump data, ?_, ?_, mapM_readLine_rows data, ?_, ?_⟩
  · rw [length_lines, rows_eq_chunks, length_chunks (by decide)]
    rfl
  · intro k line hline
    obtain ⟨-, rfl⟩ := getElem?_lines_rows_eq_some_iff.1 hline
    exact renders_line data k
  · intro hdata line hline
    obtain ⟨k, hk⟩ := List.mem_iff_getElem?.1 hline
    obtain ⟨hlt, rfl⟩ := getElem?_lines_rows_eq_some_iff.1 hk
    exact barColumn_line_of_lt (Nat.lt_of_lt_of_le hlt hdata) _
  · intro data' hsame
    have hback := read_hexDump data'
    rw [hsame, read_hexDump] at hback
    exact (Option.some.inj hback).symm

/-- A line full of bars, and a short one with a line feed and a blank. -/
def barredOctets : Octets := List.replicate lineSize bar ++ [lineFeed, blank]

theorem barredOctets_dumped :
    hexDump barredOctets =
      "0000  7c 7c 7c 7c 7c 7c 7c 7c  7c 7c 7c 7c 7c 7c 7c 7c  ||||||||||||||||||\n" ++
      "0010  0a 20                                             |. |\n" ∧
    barredOctets.length ≤ 65536 ∧
    ∃ lines : List Octets,
      lines.length = 2 ∧ (lines.mapM readLine).map List.flatten = some barredOctets ∧
      (∀ line ∈ lines, barColumn line = 56) ∧
      ∃ last, lines[1]? = some last ∧ readLine last = some [0x0A, 0x20] ∧ textPart last = [0x2E, 0x20] := by
  obtain ⟨lines, -, hlength, hlines, hread, hbars, -⟩ := hexDump_loses_nothing barredOctets
  have hfew : barredOctets.length ≤ 65536 := by decide
  have hlast : 1 < lines.length := by rw [hlength]; decide
  have hrenders := hlines 1 lines[1] (List.getElem?_eq_getElem hlast)
  exact ⟨by decide +kernel, hfew, lines, hlength, hread, hbars hfew, lines[1], List.getElem?_eq_getElem hlast,
    hrenders.octets, hrenders.text⟩

end SimPhonebook.HexDump
