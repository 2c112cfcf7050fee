import SimPhonebook.Phonebook.Report
import SimPhonebook.Proofs.Settling

/-!
# Lines about errors

What is printed about a failure starts with `error: `, behind the code of the error style where there is color, and ends its
line (`IsErrorLine`). The reason follows as it is, unless it has several lines or tabs (`TellsOf`). Everything else on the
error stream ends its lines too, so such a text starts a line of the stream, whichever diagnostics are shown
(`hasErrorLine_errorStream`).
-/

namespace SimPhonebook

/-- The text is empty or ends with a line break. -/
def EndsLine (t : Text) : Prop := t = Text.empty ∨ ∃ u, t = u ++ "\n"

/-- The text starts with `error: ` and ends with a line break. -/
def IsErrorLine (color : Bool) (t : Text) : Prop :=
  ∃ lead rest : Text, (lead = Text.empty ∨ color = true ∧ lead = "\x1b[91m") ∧ t = lead ++ "error: " ++ rest ++ "\n"

/-- The text is an error line about a reason, which stands in it as it is if it is plain. -/
structure TellsOf (color : Bool) (reason t : Text) : Prop where
  isErrorLine : IsErrorLine color t
  plain : reason.IsPlain → t = (if color then ("\x1b[91m" : Text) else Text.empty) ++ "error: " ++ reason ++
    (if color then ("\x1b[0m" : Text) else Text.empty) ++ "\n"

/-- An error line starts at the start of a line of the text. -/
def HasErrorLine (color : Bool) (t : Text) : Prop :=
  ∃ before line after, EndsLine before ∧ IsErrorLine color line ∧ t = before ++ line ++ after

theorem EndsLine.append {a b : Text} (ha : EndsLine a) (hb : EndsLine b) : EndsLine (a ++ b) := by
  rcases hb with rfl | ⟨u, rfl⟩
  · rw [Text.append_empty]
    exact ha
  · exact Or.inr ⟨a ++ u, (Text.append_assoc ..).symm⟩

/-! ## The error stream -/

/-- What a note adds to the error stream. -/
def Note.shownAs (shown : Voice → Bool) : Note → Text
  | .printed t => t
  | .diagnostic v r => if shown v then r.line else Text.empty

theorem errorStream_cons (shown : Voice → Bool) (n : Note) (j : Journal) :
    Journal.errorStream shown (n :: j) = n.shownAs shown ++ Journal.errorStream shown j := by
  cases n with
  | printed t => rfl
  | diagnostic v r =>
    simp only [Journal.errorStream, Note.shownAs]
    by_cases hv : shown v = true
    · simp only [List.filterMap_cons, hv, if_true]
      rfl
    · simp only [List.filterMap_cons, hv, if_false, Bool.false_eq_true]
      rfl

theorem endsLine_diagnostic (shown : Voice → Bool) (v : Voice) (r : Log.Record) :
    EndsLine ((Note.diagnostic v r).shownAs shown) := by
  simp only [Note.shownAs]
  split
  · exact Or.inr ⟨_, rfl⟩
  · exact Or.inl rfl

/-- **Where error lines were printed, the error stream has one**, whichever diagnostics are shown. -/
theorem hasErrorLine_errorStream {color : Bool} {j : Journal} (h : ∀ t ∈ j.prints, IsErrorLine color t)
    (hsome : j.prints ≠ []) (shown : Voice → Bool) : HasErrorLine color (j.errorStream shown) := by
  induction j with
  | nil => exact absurd rfl hsome
  | cons n j ih =>
    rw [errorStream_cons]
    cases n with
    | printed t => exact ⟨Text.empty, t, _, Or.inl rfl, h t List.mem_cons_self, rfl⟩
    | diagnostic v r =>
      obtain ⟨before, line, after, hbefore, hline, hj⟩ := ih h hsome
      refine ⟨(Note.diagnostic v r).shownAs shown ++ before, line, after, ?_, hline, ?_⟩
      · exact (endsLine_diagnostic shown v r).append hbefore
      · rw [hj]
        simp only [Text.append_assoc]

/-! ## What is printed about a failure -/

theorem exists_join_eq (sep t : Text) (ts : List Text) : ∃ rest, Text.join sep (t :: ts) = t ++ rest := by
  cases ts with
  | nil => exact ⟨Text.empty, (Text.append_empty t).symm⟩
  | cons t' ts => exact ⟨sep ++ Text.join sep (t' :: ts), Text.append_assoc ..⟩

namespace Style

theorem unifyBreaks_append {a : Octets} (h : 0x0D ∉ a) (s : Octets) : unifyBreaks (a ++ s) = a ++ unifyBreaks s := by
  induction a with
  | nil => rfl
  | cons b a ih =>
    have hb : b ≠ 0x0D := fun hb => h (hb ▸ List.mem_cons_self)
    rw [List.cons_append, unifyBreaks, ih fun hmem => h (List.mem_cons_of_mem b hmem)]
    · rfl
    · exact fun _ hreturn => absurd hreturn hb

/-- A block starts with its first line, painted. -/
theorem exists_block_eq (paint : Text → Text) (least : Nat) (line : Text) (lines : List Text) :
    ∃ rest, block paint least (line :: lines) = paint line ++ rest := by
  obtain ⟨rest, hrest⟩ := exists_join_eq ⟨[lineFeed]⟩
    (paint line ++ Text.blanks (((line :: lines).map Text.columns).foldl max least - line.columns))
    (lines.map fun l => paint l ++ Text.blanks (((line :: lines).map Text.columns).foldl max least - l.columns))
  exact ⟨_, hrest.trans (Text.append_assoc ..)⟩

theorem error_code : ("\x1b[" : Text) ++ error.codes ++ "m" = "\x1b[91m" := by decide

/-- A text that starts with `error: ` still does once it is rendered, behind the code of the style. -/
theorem exists_render_error_eq (color : Bool) (reason : Text) :
    ∃ lead rest : Text, (lead = Text.empty ∨ color = true ∧ lead = "\x1b[91m") ∧
      error.render color ("error: " ++ reason) = lead ++ "error: " ++ rest := by
  have hclean : unifyBreaks (expandTabs (("error: " : Text) ++ reason).octets) =
      ("error: " : Text).octets ++ unifyBreaks (expandTabs reason.octets) := by
    rw [Text.octets_append, expandTabs, List.flatMap_append]
    exact unifyBreaks_append (by decide) _
  obtain ⟨part, parts, hparts⟩ := List.exists_cons_of_ne_nil
    (Text.splitOctets_ne_nil lineFeed (unifyBreaks (expandTabs reason.octets)))
  have hsplit : Text.split lineFeed ⟨unifyBreaks (expandTabs (("error: " : Text) ++ reason).octets)⟩ =
      (("error: " : Text) ++ ⟨part⟩) :: parts.map Text.mk := by
    rw [hclean, Text.split, Text.splitOctets_append (by decide) hparts]
    rfl
  obtain ⟨rest, hrest⟩ := exists_block_eq (error.paint color) 0 (("error: " : Text) ++ ⟨part⟩) (parts.map Text.mk)
  have hrender : error.render color ("error: " ++ reason) = error.paint color (("error: " : Text) ++ ⟨part⟩) ++ rest := by
    rw [← hrest, ← hsplit]
    rfl
  rw [hrender]
  cases color with
  | false => exact ⟨Text.empty, ⟨part⟩ ++ rest, Or.inl rfl, Text.append_assoc ..⟩
  | true =>
    refine ⟨"\x1b[91m", ⟨part⟩ ++ ("\x1b[0m" ++ rest), Or.inr ⟨rfl, rfl⟩, ?_⟩
    rw [paint, if_pos rfl, error_code]
    simp only [Text.append_assoc]

end Style

theorem isErrorLine_report (color : Bool) (reason : Text) : IsErrorLine color (Phonebook.Report.error color reason) := by
  obtain ⟨lead, rest, hlead, hrender⟩ := Style.exists_render_error_eq color reason
  exact ⟨lead, rest, hlead, by rw [Phonebook.Report.error, hrender]⟩

theorem tellsOf_report (color : Bool) (reason : Text) : TellsOf color reason (Phonebook.Report.error color reason) where
  isErrorLine := isErrorLine_report color reason
  plain h := by
    rw [Phonebook.Report.error, Style.render_eq_paint rfl color (.append (by decide) h), Style.paint, Style.error_code]
    cases color with
    | false => simp only [Bool.false_eq_true, if_false, Text.empty_append, Text.append_empty]
    | true => simp only [if_true, Text.append_assoc]

end SimPhonebook
