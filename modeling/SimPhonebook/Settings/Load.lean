import SimPhonebook.Files.Tree
import SimPhonebook.Settings.Decode

/-!
# Loading settings

Settings come from a file. One that is only looked for, and not there, does no harm.
-/

namespace SimPhonebook.Settings

inductive LoadError where
  | notRead (error : FileError)
  | notParsed (path : Text) (error : FormatError)
deriving DecidableEq, Repr

instance : Described LoadError where
  message
    | .notRead e => "failed to read config: " ++ message e
    | .notParsed path e => "failed to parse config " ++ path ++ ": " ++ message e

/-- The settings in the file at a path, or the defaults if there is no path. -/
def load (read : Text → Except FileError Octets) (path : Text) (required : Bool) : Except LoadError Settings :=
  if path.isEmpty then .ok default
  else match read path with
    | .error e => if e.fault = .notFound && !required then .ok default else .error (.notRead e)
    | .ok data =>
      match parse data with
      | .error e => .error (.notParsed path e)
      | .ok s => .ok s.completed

/-- What loading gives: what a file says, with the defaults for what it leaves open; or the defaults alone, if no file is
looked for, or if one that need not be there is not found. -/
inductive Loads (read : Text → Except FileError Octets) (path : Text) : Bool → Settings → Prop
  | file {required : Bool} {data : Octets} {s : Settings} (hpath : path ≠ Text.empty) (hread : read path = .ok data)
      (hparse : parse data = .ok s) : Loads read path required s.completed
  | missing {e : FileError} (hpath : path ≠ Text.empty) (hread : read path = .error e) (hfault : e.fault = .notFound) :
      Loads read path false default
  | nowhere {required : Bool} (hpath : path = Text.empty) : Loads read path required default

theorem load_eq_ok_iff {read : Text → Except FileError Octets} {path : Text} {required : Bool} {s : Settings} :
    load read path required = .ok s ↔ Loads read path required s := by
  constructor
  · intro h
    by_cases hpath : path = Text.empty
    · rw [load, if_pos (Text.isEmpty_iff.2 hpath)] at h
      cases h
      exact .nowhere hpath
    rw [load, if_neg (mt Text.isEmpty_iff.1 hpath)] at h
    cases hread : read path with
    | ok data =>
      cases hparse : parse data with
      | ok t =>
        simp only [hread, hparse, Except.ok.injEq] at h
        exact h ▸ .file hpath hread hparse
      | error e => simp [hread, hparse] at h
    | error e =>
      by_cases hmissing : e.fault = .notFound ∧ required = false
      · obtain ⟨hfault, rfl⟩ := hmissing
        simp only [hread, hfault, decide_true, Bool.not_false, Bool.and_self, if_true, Except.ok.injEq] at h
        exact h ▸ .missing hpath hread hfault
      · simp [hread, hmissing] at h
  · intro h
    cases h with
    | file hpath hread hparse => simp [load, mt Text.isEmpty_iff.1 hpath, hread, hparse]
    | missing hpath hread hfault => simp [load, mt Text.isEmpty_iff.1 hpath, hread, hfault]
    | nowhere hpath => rw [load, if_pos (Text.isEmpty_iff.2 hpath)]

end SimPhonebook.Settings
