import SimPhonebook.Phonebook.Entry
import SimPhonebook.Style

/-!
# Reports

What a run prints about its result. Fields stand one to a line, each after a label of fixed width.
-/

namespace SimPhonebook.Phonebook.Report

/-- A line that shows `value` after a label. -/
def field (color : Bool) (label value : Text) : Text :=
  "  " ++ Style.label.render color (label ++ ":") ++ " " ++ Style.value.render color value ++ "\n"

def configuration (color : Bool) (c : Configuration) : Text :=
  Style.title.render color "Phonebook configuration retrieved:" ++ "\n" ++
    field color "Phonebook state" (c.readiness.name?.getD "unknown") ++
    field color "Number of entries" (Numeral.word c.totalEntries) ++
    field color "Used entries" (Numeral.word c.usedEntries) ++
    field color "Max number length" (Numeral.word c.maxNumberLength) ++
    field color "Max name length" (Numeral.word c.maxNameLength)

/-- The three lines of an entry. -/
def entry (color : Bool) (e : Entry) : Text :=
  "  " ++ Style.label.render color "Entry index:" ++ " " ++ Style.index.render color (Numeral.word e.index) ++ "\n" ++
    field color "Number" e.number ++
    field color "Name" e.name

def entries (color : Bool) (es : List Entry) : Text :=
  Style.success.render color "Successfully read phonebook entry/entries" ++ "\n" ++
    "  " ++ Style.muted.render color "Phonebook entries count:" ++ " " ++ Numeral.decimal es.length ++ "\n" ++
    Text.concat (es.map (entry color))

def written (color : Bool) : Text :=
  Style.success.render color "Phonebook entry successfully written/updated" ++ "\n"

def deleted (color : Bool) : Text :=
  Style.success.render color "Phonebook entry/entries successfully deleted" ++ "\n"

/-- The line about a failure. -/
def error (color : Bool) (reason : Text) : Text := Style.error.render color ("error: " ++ reason) ++ "\n"

end SimPhonebook.Phonebook.Report
