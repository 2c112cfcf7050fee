import SimPhonebook.Phonebook.Selector

/-!
# What a selector answers

A selector can be asked any number of times, and in any order, whether it is enabled and for its action. It gives each question
the same answer every time, and complains about several actions once at most (`Selector.selection_consistent`). Which answer
depends on the number of options given, counted one by one in `Options.wishes`. Counting and selecting go through the options
in different orders, and agree: the number counted is that of the options given (`Options.count_eq_wished`), and the action
selected is the one of an option that is given, if there is any (`Options.action_cases`).

The invariant is short: a selector that has been asked anything is `Selector.settled`, and asking does not change it any more.
-/

namespace SimPhonebook.Phonebook

/-! ## The options given -/

/-- An option, with the action it asks for and the arguments of the action. -/
structure Wish where
  given : Bool
  action : Action
  index : Int32 := 0
  input : Text := Text.empty

namespace Options

/-- The options one by one. A flag is given if it is set, an index if it is not zero, an input if it is not empty. -/
def wishes (o : Options) : List Wish :=
  [{ given := o.queryConfiguration, action := .queryConfiguration },
   { given := o.read ≠ 0, action := .read o.read, index := o.read },
   { given := o.readAll, action := .readAll },
   { given := o.write ≠ Text.empty, action := .write o.write, input := o.write },
   { given := o.entryUpdate ≠ Text.empty, action := .update o.entryUpdate, input := o.entryUpdate },
   { given := o.delete ≠ 0, action := .delete o.delete, index := o.delete },
   { given := o.deleteAll, action := .deleteAll }]

/-- How many options are given. -/
def wished (o : Options) : Nat := o.wishes.countP Wish.given

/-- The arguments of an action are those of its option. -/
theorem arguments_of_mem_wishes {o : Options} {w : Wish} (h : w ∈ o.wishes) :
    w.action.index = w.index ∧ w.action.input = w.input := by
  simp only [wishes, List.mem_cons, List.not_mem_nil, or_false] at h
  rcases h with rfl | rfl | rfl | rfl | rfl | rfl | rfl <;> simp [Action.index, Action.input]

/-! Options are counted in one order, and the action is looked for in another. -/

theorem given_eq (o : Options) : o.given = o.wishes.map Wish.given := rfl

theorem count_eq_wished (o : Options) : o.count = o.wished := by
  rw [count, given_eq, List.count, List.countP_map, wished]
  congr 1
  funext w
  simp

/-- The options in the order in which their actions are looked at. -/
def choices (o : Options) : List Wish := o.wishes.take 3 ++ o.wishes.drop 5 ++ (o.wishes.drop 3).take 2

theorem choices_perm (o : Options) : o.choices.Perm o.wishes := by
  have hsplit : o.wishes = o.wishes.take 3 ++ ((o.wishes.drop 3).take 2 ++ o.wishes.drop 5) := rfl
  rw [hsplit, choices, List.append_assoc]
  exact .append_left _ List.perm_append_comm

theorem action_eq (o : Options) : o.action = (o.choices.find? Wish.given).elim .none Wish.action := by
  have hcons : ∀ (w : Wish) (ws : List Wish), ((w :: ws).find? Wish.given).elim .none Wish.action =
      if w.given then w.action else (ws.find? Wish.given).elim .none Wish.action := by
    intro w ws
    by_cases hw : w.given = true
    · simp [hw]
    · simp [hw]
  simp only [action, choices, wishes, List.take, List.drop, List.cons_append, List.nil_append, hcons, List.find?_nil,
    Option.elim_none, decide_eq_true_eq]

/-- What is found is the action of an option that is given, or nothing where there is none. -/
theorem action_cases (o : Options) :
    (∃ w ∈ o.wishes, w.given = true ∧ o.action = w.action) ∨ (o.action = .none ∧ o.wished = 0) := by
  rw [action_eq]
  cases hfind : o.choices.find? Wish.given with
  | none =>
    refine Or.inr ⟨rfl, ?_⟩
    rw [wished, List.countP_eq_zero]
    intro w hw
    exact List.find?_eq_none.1 hfind w (o.choices_perm.mem_iff.2 hw)
  | some w =>
    exact Or.inl ⟨w, o.choices_perm.mem_iff.1 (List.mem_of_find?_eq_some hfind), List.find?_some hfind, rfl⟩

theorem action_of_nothing {o : Options} (h : o.wished = 0) : o.action = .none := by
  rcases o.action_cases with ⟨w, hw, hgiven, -⟩ | ⟨hnone, -⟩
  · exact absurd hgiven (List.countP_eq_zero.1 h w hw)
  · exact hnone

/-- One option is given, and it asks for the action. -/
def AsksOnly (o : Options) (a : Action) : Prop := o.wished = 1 ∧ ∃ w ∈ o.wishes, w.given = true ∧ w.action = a

theorem asksOnly_action {o : Options} (h : o.wished = 1) : o.AsksOnly o.action := by
  rcases o.action_cases with ⟨w, hw, hgiven, haction⟩ | ⟨-, hnone⟩
  · exact ⟨h, w, hw, hgiven, haction.symm⟩
  · omega

theorem AsksOnly.unique {o : Options} {a b : Action} (ha : o.AsksOnly a) (hb : o.AsksOnly b) : a = b := by
  obtain ⟨hone, v, hv, hvgiven, rfl⟩ := ha
  obtain ⟨-, w, hw, hwgiven, rfl⟩ := hb
  obtain ⟨u, hu⟩ : ∃ u, o.wishes.filter Wish.given = [u] := by
    rw [wished, List.countP_eq_length_filter] at hone
    exact List.length_eq_one_iff.1 hone
  have hmem : ∀ x ∈ o.wishes, x.given = true → x = u := fun x hx hgiven =>
    List.mem_singleton.1 (hu ▸ List.mem_filter.2 ⟨hx, hgiven⟩)
  rw [hmem v hv hvgiven, hmem w hw hwgiven]

theorem decide_of_several {o : Options} (h : 1 < o.wished) : o.decide = ⟨o.wished, .none, some ⟨o.wished⟩⟩ := by
  rw [decide, count_eq_wished, if_pos h]

theorem decide_of_few {o : Options} (h : o.wished ≤ 1) : o.decide = ⟨o.wished, o.action, none⟩ := by
  rw [decide, count_eq_wished, if_neg (by omega)]

theorem error_decide (o : Options) : o.decide.error.isSome = true ↔ 1 < o.wished := by
  by_cases h : 1 < o.wished
  · simp [decide_of_several h, h]
  · simp [decide_of_few (Nat.le_of_not_lt h), h]

end Options

/-! ## Asking -/

/-- What a selector can be asked. -/
inductive Question where
  | enabled
  | action
deriving DecidableEq, Repr

inductive Answer where
  | enabled (yes : Bool) (error : Option TooManyActions)
  | action (chosen : Action) (error : Option TooManyActions)
deriving DecidableEq, Repr

/-- The answer to a question, if there is just one for each of the two. -/
def Question.answer (enabled : Bool × Option TooManyActions) (action : Action × Option TooManyActions) : Question → Answer
  | .enabled => .enabled enabled.1 enabled.2
  | .action => .action action.1 action.2

namespace Selector

def ask (s : Selector) : Question → Selector × Answer
  | .enabled => (s.enabled.1, .enabled s.enabled.2.1 s.enabled.2.2)
  | .action => (s.action.1, .action s.action.2.1 s.action.2.2)

/-- Asks one question after the other. -/
def askAll (s : Selector) : List Question → Selector × List Answer
  | [] => (s, [])
  | q :: qs => (((s.ask q).1.askAll qs).1, (s.ask q).2 :: ((s.ask q).1.askAll qs).2)

/-- A selector that has decided. -/
def settled (o : Options) : Selector :=
  ⟨o, some o.decide, if o.decide.error.isSome then tooManyLine else Text.empty⟩

theorem settle_new (o : Options) : (new o).settle = (settled o, o.decide) := by
  unfold settle new settled
  rw [Text.empty_append]

theorem settle_settled (o : Options) : (settled o).settle = (settled o, o.decide) := rfl

theorem enabled_of_several {o : Options} (h : 1 < o.wished) :
    (new o).enabled = (⟨o, some o.decide, tooManyLine⟩, false, some ⟨o.wished⟩) := by
  simp [enabled, settle_new, settled, Options.decide_of_several h]

theorem enabled_of_nothing {o : Options} (h : o.wished = 0) : (new o).enabled = (settled o, false, none) := by
  simp [enabled, settle_new, Options.decide_of_few (h ▸ Nat.zero_le 1), h]

theorem enabled_of_one {o : Options} (h : o.wished = 1) : (new o).enabled = (settled o, true, none) := by
  simp [enabled, settle_new, Options.decide_of_few (Nat.le_of_eq h), h]

theorem action_settled {o : Options} (h : o.wished = 1) : (settled o).action = (settled o, o.action, none) := by
  simp [action, settle_settled, Options.decide_of_few (Nat.le_of_eq h)]

/-- The answers that a decision stands for. -/
def answers (o : Options) : Question → Answer :=
  Question.answer (o.decide.error.isNone && o.decide.count == 1, o.decide.error) (o.decide.action, o.decide.error)

/-- Any question settles a selector and is answered by the decision. -/
theorem ask_eq {o : Options} {s : Selector} (h : s = new o ∨ s = settled o) (q : Question) :
    s.ask q = (settled o, answers o q) := by
  have hsettle : s.settle = (settled o, o.decide) := by
    rcases h with rfl | rfl
    · exact settle_new o
    · exact settle_settled o
  cases q with
  | enabled => simp only [ask, enabled, hsettle, answers, Question.answer]
  | action => simp only [ask, action, hsettle, answers, Question.answer]

/-- So do any questions, if there are any. -/
theorem askAll_eq {o : Options} {s : Selector} (h : s = new o ∨ s = settled o) (qs : List Question) :
    s.askAll qs = (if qs = [] then s else settled o, qs.map (answers o)) := by
  induction qs generalizing s with
  | nil => rfl
  | cons q qs ih =>
    rw [askAll, ask_eq h, ih (Or.inr rfl)]
    simp

/-- What the options given make of the two answers: nothing to do, the action of the one option with its arguments, or the
complaint about several. -/
structure Fits (o : Options) (enabled : Bool × Option TooManyActions) (action : Action × Option TooManyActions) : Prop where
  nothing : o.wished = 0 → enabled = (false, none) ∧ action = (.none, none)
  one : o.wished = 1 → enabled = (true, none) ∧
    ∃ w ∈ o.wishes, w.given = true ∧ action = (w.action, none) ∧ w.action.index = w.index ∧ w.action.input = w.input
  several : 1 < o.wished → enabled = (false, some ⟨o.wished⟩) ∧ action = (.none, some ⟨o.wished⟩)

theorem fits_decide (o : Options) :
    Fits o (o.decide.error.isNone && o.decide.count == 1, o.decide.error) (o.decide.action, o.decide.error) where
  nothing h := by simp [Options.decide_of_few (h ▸ Nat.zero_le 1), Options.action_of_nothing h, h]
  one h := by
    obtain ⟨-, w, hw, hgiven, haction⟩ := Options.asksOnly_action h
    obtain ⟨hindex, hinput⟩ := Options.arguments_of_mem_wishes hw
    rw [Options.decide_of_few (Nat.le_of_eq h), h, ← haction]
    exact ⟨rfl, w, hw, hgiven, rfl, hindex, hinput⟩
  several h := by simp [Options.decide_of_several h]

/-- **A selector does not contradict itself.** There is one answer to each of the two questions, settled by the number of
options given, and it is given to every question of any sequence of questions. What is printed is the complaint about several
actions, once, if there are several and anything was asked, and nothing otherwise. -/
theorem selection_consistent (o : Options) :
    ∃ enabled action, Fits o enabled action ∧ ∀ questions : List Question,
      ((new o).askAll questions).2 = questions.map (Question.answer enabled action) ∧
      ((new o).askAll questions).1.printed =
        if 1 < o.wished ∧ questions ≠ [] then tooManyLine else Text.empty := by
  refine ⟨_, _, fits_decide o, fun questions => ?_⟩
  rw [askAll_eq (Or.inl rfl)]
  refine ⟨rfl, ?_⟩
  by_cases hnone : questions = []
  · simp [hnone, new]
  · simp [hnone, settled, o.error_decide]

-- Two options are given, and an index of zero, which counts for nothing.
example :
    ((new { readAll := true, write := "A,1", delete := 0 }).askAll [.action, .enabled, .action]) =
      (⟨{ readAll := true, write := "A,1", delete := 0 }, some ⟨2, .none, some ⟨2⟩⟩, tooManyLine⟩,
        [.action .none (some ⟨2⟩), .enabled false (some ⟨2⟩), .action .none (some ⟨2⟩)]) := by
  decide +kernel

end Selector

end SimPhonebook.Phonebook
