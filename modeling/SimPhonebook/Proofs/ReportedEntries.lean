import SimPhonebook.Phonebook.Report
import SimPhonebook.Proofs.Numerals

/-!
# Entries as they are printed

The report about entries that were read has a heading, their number, and three lines for each of them: index, number and name,
each behind its label. Numbers and names stand in it as they are. So the entries can be read back from an uncolored report
(`Report.readEntries`), and different entries have different reports (`Report.entries_faithful`), as long as no line feed or tab
in a number or name spoils the lines.

Labels and values need no quoting: a value is what follows the label of its line, and which label a line has depends on its
place alone.
-/

namespace SimPhonebook

theorem Numeral.isPlain_decimal (n : Nat) : (decimal n).IsPlain := by
  constructor
  · intro h
    have hdigit := isDecimal_digits n _ h
    revert hdigit
    decide
  · intro h
    have hdigit := isDecimal_digits n _ h
    revert hdigit
    decide

namespace Phonebook

def Entry.IsPlain (e : Entry) : Prop := e.number.IsPlain ∧ e.name.IsPlain

instance (e : Entry) : Decidable e.IsPlain := inferInstanceAs (Decidable (_ ∧ _))

namespace Report

/-! ## The lines of a report -/

/-- What stands before a value: two blanks, the label filled up with blanks to eighteen columns, and a blank. -/
def lead (label : Text) : Text := "  " ++ label ++ Text.blanks (18 - label.size) ++ " "

/-- The lines of an entry. -/
def entryLines (e : Entry) : List Text :=
  [lead "Entry index:" ++ Numeral.word e.index, lead "Number:" ++ e.number, lead "Name:" ++ e.name]

/-- The lines of the report about entries. -/
def entriesLines (es : List Entry) : List Text :=
  "Successfully read phonebook entry/entries" :: ("  Phonebook entries count: " ++ Numeral.decimal es.length) ::
    es.flatMap entryLines

/-- Lines, each with the line feed that ends it. -/
def ofLines (lines : List Text) : Text := Text.concat (lines.map (· ++ "\n"))

theorem ofLines_cons (line : Text) (lines : List Text) : ofLines (line :: lines) = line ++ "\n" ++ ofLines lines := rfl

theorem ofLines_append (lines lines' : List Text) : ofLines (lines ++ lines') = ofLines lines ++ ofLines lines' := by
  refine congrArg Text.mk ?_
  simp [ofLines, Text.concat]

theorem split_ofLines {lines : List Text} (h : ∀ line ∈ lines, Style.lineFeed ∉ line.octets) :
    (ofLines lines).split Style.lineFeed = lines ++ [Text.empty] := by
  have hoctets : (ofLines lines).octets = (lines.map Text.octets).flatMap (· ++ [Style.lineFeed]) := by
    simp only [ofLines, Text.concat, List.flatMap_map]
    rfl
  have hparts : ∀ part ∈ lines.map Text.octets, Style.lineFeed ∉ part := by
    intro part hpart
    obtain ⟨line, hline, rfl⟩ := List.mem_map.1 hpart
    exact h line hline
  rw [Text.split, hoctets, Text.splitOctets_flatMap hparts, List.map_append, List.map_map]
  exact congrArg (· ++ [Text.empty]) (List.map_id lines)

theorem render_label : ∀ label ∈ (["Entry index:", "Number:", "Name:"] : List Text),
    "  " ++ Style.label.render false label ++ " " = lead label := by
  decide +kernel

theorem entry_eq_ofLines {e : Entry} (h : e.IsPlain) : entry false e = ofLines (entryLines e) := by
  have hindex : Style.index.render false (Numeral.word e.index) = Numeral.word e.index :=
    Style.render_of_isPlain rfl (Numeral.isPlain_decimal _)
  have hnumber : Style.value.render false e.number = e.number := Style.render_of_isPlain rfl h.1
  have hname : Style.value.render false e.name = e.name := Style.render_of_isPlain rfl h.2
  have hlabels : ("Number" : Text) ++ ":" = "Number:" ∧ ("Name" : Text) ++ ":" = "Name:" := by decide
  simp only [entry, field, hindex, hnumber, hname, hlabels.1, hlabels.2,
    render_label "Entry index:" (by decide), render_label "Number:" (by decide), render_label "Name:" (by decide)]
  simp only [entryLines, ofLines_cons, Text.append_assoc]
  rfl

theorem entries_eq_ofLines {es : List Entry} (h : ∀ e ∈ es, e.IsPlain) : entries false es = ofLines (entriesLines es) := by
  have hlist : Text.concat (es.map (entry false)) = ofLines (es.flatMap entryLines) := by
    induction es with
    | nil => rfl
    | cons e es ih =>
      rw [List.flatMap_cons, ofLines_append, ← entry_eq_ofLines (h e List.mem_cons_self),
        ← ih fun e' hmem => h e' (List.mem_cons_of_mem e hmem)]
      rfl
  have hheading : Style.success.render false "Successfully read phonebook entry/entries" =
      "Successfully read phonebook entry/entries" := by
    exact Style.render_of_isPlain rfl (by decide)
  have hcount : ("  " : Text) ++ Style.muted.render false "Phonebook entries count:" ++ " " =
      "  Phonebook entries count: " := by
    rw [Style.render_of_isPlain rfl (by decide)]
    decide
  rw [entries, hheading, hlist, entriesLines, ofLines_cons, ofLines_cons]
  simp only [Text.append_assoc] at hcount ⊢
  rw [← hcount]
  simp only [Text.append_assoc]

theorem not_mem_of_mem_entriesLines {es : List Entry} (h : ∀ e ∈ es, e.IsPlain) {line : Text}
    (hline : line ∈ entriesLines es) : Style.lineFeed ∉ line.octets := by
  have hlead : ∀ label ∈ (["Entry index:", "Number:", "Name:"] : List Text), (lead label).IsPlain := by decide
  suffices hplain : line.IsPlain from hplain.1
  simp only [entriesLines, List.mem_cons, List.mem_flatMap] at hline
  rcases hline with rfl | rfl | ⟨e, he, hline⟩
  · decide
  · exact Text.IsPlain.append (by decide) (Numeral.isPlain_decimal _)
  · simp only [entryLines, List.mem_cons, List.not_mem_nil, or_false] at hline
    rcases hline with rfl | rfl | rfl
    · exact (hlead _ (by decide)).append (Numeral.isPlain_decimal _)
    · exact (hlead _ (by decide)).append (h e he).1
    · exact (hlead _ (by decide)).append (h e he).2

theorem split_entries {es : List Entry} (h : ∀ e ∈ es, e.IsPlain) :
    (entries false es).split Style.lineFeed = entriesLines es ++ [Text.empty] := by
  rw [entries_eq_ofLines h]
  exact split_ofLines fun line hline => not_mem_of_mem_entriesLines h hline

/-! ## Reading a report -/

/-- The value behind a label. -/
def valueAfter (label line : Text) : Option Text :=
  if line.startsWith (lead label) then some (line.dropOctets (lead label).size) else none

def readEntry (index number name : Text) : Option Entry := do
  let index ← valueAfter "Entry index:" index
  let number ← valueAfter "Number:" number
  let name ← valueAfter "Name:" name
  some ⟨UInt32.ofNat (Numeral.decimalValue index.octets), number, name⟩

/-- The entries of lines, of which each has three. After the last line feed nothing follows. -/
def readLines : List Text → Option (List Entry)
  | index :: number :: name :: rest => do
    let e ← readEntry index number name
    let es ← readLines rest
    some (e :: es)
  | [last] => if last.isEmpty then some [] else none
  | _ => none

/-- The entries of a report. The heading and their number say nothing more. -/
def readEntries (t : Text) : Option (List Entry) := readLines ((t.split Style.lineFeed).drop 2)

theorem valueAfter_lead (label value : Text) : valueAfter label (lead label ++ value) = some value := by
  have hstarts : (lead label ++ value).startsWith (lead label) = true := by
    simp [Text.startsWith]
  rw [valueAfter, if_pos hstarts, Text.dropOctets, Text.octets_append, Text.size, List.drop_left]

theorem readEntry_entryLines (e : Entry) :
    readEntry (lead "Entry index:" ++ Numeral.word e.index) (lead "Number:" ++ e.number) (lead "Name:" ++ e.name) = some e := by
  have hindex : UInt32.ofNat (Numeral.decimalValue (Numeral.word e.index).octets) = e.index := by
    rw [Numeral.word, Numeral.decimal, Numeral.decimalValue_digits, UInt32.ofNat_toNat]
  simp only [readEntry, valueAfter_lead, Option.bind_eq_bind, Option.bind_some, hindex]

theorem readLines_flatMap_entryLines (es : List Entry) : readLines (es.flatMap entryLines ++ [Text.empty]) = some es := by
  induction es with
  | nil => rfl
  | cons e es ih =>
    simp only [List.flatMap_cons, entryLines, List.cons_append, List.nil_append, readLines, readEntry_entryLines] at ih ⊢
    rw [ih]
    rfl

/-- **A report tells its entries.** -/
theorem readEntries_entries {es : List Entry} (h : ∀ e ∈ es, e.IsPlain) : readEntries (entries false es) = some es := by
  rw [readEntries, split_entries h]
  exact readLines_flatMap_entryLines es

/-- **A report is faithful to its entries.** Its lines are the heading, the number of entries, and the three lines of each entry
in order, with the index in decimal and number and name as they are. The entries can be read back from it, so that other
entries have another report. -/
theorem entries_faithful (es : List Entry) (h : ∀ e ∈ es, e.IsPlain) :
    (entries false es).split Style.lineFeed = entriesLines es ++ [Text.empty] ∧
    readEntries (entries false es) = some es ∧
    ∀ es' : List Entry, (∀ e ∈ es', e.IsPlain) → entries false es' = entries false es → es' = es := by
  refine ⟨split_entries h, readEntries_entries h, fun es' h' hsame => ?_⟩
  have hback := readEntries_entries h'
  rw [hsame, readEntries_entries h] at hback
  exact (Option.some.inj hback).symm

/-- Entries that look like parts of a report: a name like a label, blanks at the end, an empty number, wide characters. -/
def lookalikes : List Entry := [⟨7, "", "  Name:              x  "⟩, ⟨0xFFFFFFFF, "+49 30", "日本"⟩]

theorem lookalikes_faithful :
    (∀ e ∈ lookalikes, e.IsPlain) ∧
    ((entries false lookalikes).split Style.lineFeed)[3]? = some ("  Number:            " : Text) ∧
    readEntries (entries false lookalikes) = some lookalikes ∧
    entries false lookalikes.reverse ≠ entries false lookalikes := by
  have hplain : ∀ e ∈ lookalikes, e.IsPlain := by decide
  obtain ⟨hlines, hback, hother⟩ := entries_faithful lookalikes hplain
  refine ⟨hplain, ?_, hback, fun h => ?_⟩
  · rw [hlines]
    decide +kernel
  · exact absurd (hother lookalikes.reverse (by decide) h) (by decide)

end Report

end Phonebook

end SimPhonebook
