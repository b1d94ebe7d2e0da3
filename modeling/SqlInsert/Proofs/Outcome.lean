import Mathlib
import SqlInsert.Journal.Basic
/-!
# Outcomes of journaled calculations

The outcome of a calculation does not depend on its journal: it follows the outcomes of its parts as if
nothing had been noted. Answers asked for one after another are all there, each from its own question,
or the first question without an answer gives the failure of the whole.
-/

namespace SqlInsert

namespace Logged

variable {ε α β : Type}

/-- A plain value is an outcome without entries. -/
@[simp] theorem outcome_pure (value : α) : (pure value : Logged ε α).outcome = .ok value := rfl

/-- An outcome keeps itself among logged steps. -/
@[simp] theorem outcome_ofExcept (outcome : Except ε α) : (Logged.ofExcept outcome).outcome = outcome := rfl

/-- A note changes no outcome. -/
@[simp] theorem outcome_note (source : String) (severity : Severity) (message : String) :
    (Logged.note source severity message : Logged ε Unit).outcome = .ok () := rfl

/-- The outcome of two calculations in a row, whatever they noted. -/
@[simp] theorem outcome_bind (first : Logged ε α) (next : α → Logged ε β) :
    (first >>= next).outcome = first.outcome >>= fun value => (next value).outcome := by
  change (first.andThen next).outcome = _
  unfold andThen
  cases first.outcome <;> rfl

/-- A report about a failure leaves the failure as it is. -/
@[simp] theorem outcome_reporting (report : ε → Option Entry) (calculation : Logged ε α) :
    (calculation.reporting report).outcome = calculation.outcome := by
  unfold reporting
  cases h : calculation.outcome <;> simp only [h]

end Logged

section

variable {ε ε' α β γ : Type}

/-- A value is handed to the step behind it. -/
@[simp] theorem ok_bind (value : α) (next : α → Except ε β) :
    ((Except.ok value : Except ε α) >>= next) = next value := rfl

/-- An error ends the steps behind it. -/
@[simp] theorem error_bind (error : ε) (next : α → Except ε β) :
    ((Except.error error : Except ε α) >>= next) = .error error := rfl

/-- Two steps fail as the first does, or as the second does with what the first gave. -/
theorem bind_eq_error_iff {first : Except ε α} {next : α → Except ε β} {error : ε} :
    (first >>= next) = .error error ↔
      first = .error error ∨ ∃ value, first = .ok value ∧ next value = .error error := by
  cases first with
  | error error' =>
    simp only [error_bind, Except.error.injEq, reduceCtorEq, false_and, exists_false, or_false]
  | ok value => simp only [ok_bind, reduceCtorEq, Except.ok.injEq, exists_eq_left', false_or]

/-- Two steps give what the second gives with the first one's value. -/
theorem bind_eq_ok_iff {first : Except ε α} {next : α → Except ε β} {result : β} :
    (first >>= next) = .ok result ↔ ∃ value, first = .ok value ∧ next value = .ok result := by
  cases first with
  | error error => simp only [error_bind, reduceCtorEq, false_and, exists_false]
  | ok value => simp only [ok_bind, Except.ok.injEq, exists_eq_left']

/-- Changing the value keeps the error. -/
theorem map_eq_error_iff {outcome : Except ε α} {change : α → β} {error : ε} :
    outcome.map change = .error error ↔ outcome = .error error := by
  cases outcome <;> simp only [Except.map, reduceCtorEq, Except.error.injEq]

/-- Rewording the error keeps the value. -/
theorem mapError_eq_ok_iff {outcome : Except ε α} {reword : ε → ε'} {value : α} :
    outcome.mapError reword = .ok value ↔ outcome = .ok value := by
  cases outcome <;> simp only [Except.mapError, reduceCtorEq, Except.ok.injEq]

/-- A reworded error has a cause that was reworded to it. -/
theorem mapError_eq_error_iff {outcome : Except ε α} {reword : ε → ε'} {error : ε'} :
    outcome.mapError reword = .error error ↔ ∃ cause, outcome = .error cause ∧ reword cause = error := by
  cases outcome <;>
    simp only [Except.mapError, reduceCtorEq, false_and, exists_false, Except.error.injEq, exists_eq_left']

/-- A changed outcome succeeds exactly where the outcome does. -/
theorem exists_map_eq_ok_iff {outcome : Except ε α} {change : α → β} :
    (∃ result, outcome.map change = .ok result) ↔ ∃ value, outcome = .ok value := by
  cases outcome <;> simp only [Except.map, reduceCtorEq, exists_false, Except.ok.injEq, exists_eq']

/-- A member of a list that lacks a property which all members before it have. -/
def IsFirst (holds : α → Prop) (list : List α) (found : α) : Prop :=
  ∃ before after, list = before ++ found :: after ∧ (∀ earlier ∈ before, holds earlier) ∧ ¬holds found

/-- In an empty list nothing is the first that fails the test. -/
theorem not_isFirst_nil (holds : α → Prop) (found : α) : ¬IsFirst holds [] found := by
  rintro ⟨before, after, h, _, _⟩
  cases before <;> cases h

/-- The first member without the property is the head or the first such member of the rest. -/
theorem isFirst_cons {holds : α → Prop} {head found : α} {tail : List α} :
    IsFirst holds (head :: tail) found ↔
      head = found ∧ ¬holds found ∨ holds head ∧ IsFirst holds tail found := by
  constructor
  · rintro ⟨before, after, heq, hbefore, hfound⟩
    cases before with
    | nil =>
      cases heq
      exact .inl ⟨rfl, hfound⟩
    | cons first before =>
      cases heq
      obtain ⟨hhead, hrest⟩ := List.forall_mem_cons.mp hbefore
      exact .inr ⟨hhead, before, after, rfl, hrest, hfound⟩
  · rintro (⟨rfl, hfound⟩ | ⟨hhead, before, after, rfl, hbefore, hfound⟩)
    · exact ⟨[], tail, rfl, by simp only [List.not_mem_nil, false_implies, implies_true], hfound⟩
    · exact ⟨head :: before, after, rfl, List.forall_mem_cons.mpr ⟨hhead, hbefore⟩, hfound⟩

/-- The first member without the property in two lists in a row. -/
theorem isFirst_append {holds : α → Prop} {front back : List α} {found : α} :
    IsFirst holds (front ++ back) found ↔
      IsFirst holds front found ∨ (∀ member ∈ front, holds member) ∧ IsFirst holds back found := by
  induction front with
  | nil =>
    simp only [List.nil_append, List.not_mem_nil, false_implies, implies_true, true_and,
      not_isFirst_nil, false_or]
  | cons head tail ih =>
    rw [List.cons_append, isFirst_cons, isFirst_cons, ih, List.forall_mem_cons]
    constructor
    · rintro (h | ⟨hhead, h | ⟨hall, h⟩⟩)
      · exact .inl (.inl h)
      · exact .inl (.inr ⟨hhead, h⟩)
      · exact .inr ⟨⟨hhead, hall⟩, h⟩
    · rintro ((h | ⟨hhead, h⟩) | ⟨⟨hhead, hall⟩, h⟩)
      · exact .inl h
      · exact .inr ⟨hhead, .inl h⟩
      · exact .inr ⟨hhead, .inr ⟨hall, h⟩⟩

/-- The first that fails the test is in the list. -/
theorem IsFirst.mem {holds : α → Prop} {list : List α} {found : α} (h : IsFirst holds list found) :
    found ∈ list := by
  obtain ⟨before, after, rfl, _, _⟩ := h
  exact List.mem_append_right before List.mem_cons_self

/-- The first that fails the test fails it. -/
theorem IsFirst.not_holds {holds : α → Prop} {list : List α} {found : α} (h : IsFirst holds list found) :
    ¬holds found := by
  obtain ⟨_, _, _, _, hfound⟩ := h
  exact hfound

/-- Either every member has the property or some member is the first without it. -/
theorem all_or_isFirst (holds : α → Prop) (list : List α) :
    (∀ member ∈ list, holds member) ∨ ∃ found, IsFirst holds list found := by
  induction list with
  | nil => exact .inl (by simp only [List.not_mem_nil, false_implies, implies_true])
  | cons head tail ih =>
    by_cases hhead : holds head
    · rcases ih with hall | ⟨found, hfound⟩
      · exact .inl (List.forall_mem_cons.mpr ⟨hhead, hall⟩)
      · exact .inr ⟨found, isFirst_cons.mpr (.inr ⟨hhead, hfound⟩)⟩
    · exact .inr ⟨head, isFirst_cons.mpr (.inl ⟨rfl, hhead⟩)⟩

/-- An outcome that fails with the fault of the first member without a property succeeds exactly if all
members have it. -/
theorem exists_ok_iff_of_error_iff {outcome : Except ε β} {holds : α → Prop} {fault : α → ε → Prop}
    {list : List α}
    (herror : ∀ error, outcome = .error error ↔ ∃ member, IsFirst holds list member ∧ fault member error)
    (hfault : ∀ member, ¬holds member → ∃ error, fault member error) :
    (∃ value, outcome = .ok value) ↔ ∀ member ∈ list, holds member := by
  constructor
  · rintro ⟨value, hvalue⟩
    rcases all_or_isFirst holds list with hall | ⟨member, hfirst⟩
    · exact hall
    · obtain ⟨error, hmember⟩ := hfault member hfirst.not_holds
      rw [(herror error).mpr ⟨member, hfirst, hmember⟩] at hvalue
      cases hvalue
  · intro hall
    cases houtcome : outcome with
    | ok value => exact ⟨value, rfl⟩
    | error error =>
      obtain ⟨member, hfirst, _⟩ := (herror error).mp houtcome
      exact absurd (hall member hfirst.mem) hfirst.not_holds

/-- A first answer and the others give all answers when both are there. -/
theorem cons_answers_eq_ok_iff {first : Except ε β} {others : Except ε (List β)} {answers : List β} :
    (do return (← first) :: (← others)) = .ok answers ↔
      ∃ answer rest, first = .ok answer ∧ others = .ok rest ∧ answers = answer :: rest := by
  cases first with
  | error error => simp only [error_bind, reduceCtorEq, false_and, exists_false]
  | ok answer =>
    cases others with
    | error error => simp only [ok_bind, error_bind, reduceCtorEq, false_and, and_false, exists_false]
    | ok rest =>
      simp only [ok_bind, pure, Except.pure, Except.ok.injEq]
      constructor
      · rintro rfl
        exact ⟨answer, rest, rfl, rfl, rfl⟩
      · rintro ⟨_, _, rfl, rfl, rfl⟩
        rfl

/-- They fail as the first does, or as the others do behind a first answer. -/
theorem cons_answers_eq_error_iff {first : Except ε β} {others : Except ε (List β)} {error : ε} :
    (do return (← first) :: (← others)) = .error error ↔
      first = .error error ∨ (∃ answer, first = .ok answer) ∧ others = .error error := by
  cases first with
  | error error' =>
    simp only [error_bind, Except.error.injEq, reduceCtorEq, exists_false, false_and, or_false]
  | ok answer =>
    cases others with
    | error error' =>
      simp only [ok_bind, error_bind, Except.error.injEq, reduceCtorEq, Except.ok.injEq, exists_eq',
        true_and, false_or]
    | ok rest => simp only [ok_bind, pure, Except.pure, reduceCtorEq, and_false, or_self]

/-- All answers are there exactly when each question has its own. -/
theorem mapM_eq_ok_iff {ask : α → Except ε β} {questions : List α} {answers : List β} :
    questions.mapM ask = .ok answers ↔
      List.Forall₂ (fun question answer => ask question = .ok answer) questions answers := by
  induction questions generalizing answers with
  | nil =>
    rw [List.mapM_nil, List.forall₂_nil_left_iff]
    exact ⟨fun h => (Except.ok.inj h).symm, fun h => h ▸ rfl⟩
  | cons question rest ih =>
    rw [List.mapM_cons, cons_answers_eq_ok_iff, List.forall₂_cons_left_iff]
    constructor
    · rintro ⟨answer, others, hanswer, hothers, rfl⟩
      exact ⟨answer, others, hanswer, ih.mp hothers, rfl⟩
    · rintro ⟨answer, others, hanswer, hothers, rfl⟩
      exact ⟨answer, others, hanswer, ih.mpr hothers, rfl⟩

/-- The whole fails exactly as the first question without an answer does. -/
theorem mapM_eq_error_iff {ask : α → Except ε β} {questions : List α} {error : ε} :
    questions.mapM ask = .error error ↔
      ∃ question, IsFirst (fun question => ∃ answer, ask question = .ok answer) questions question ∧
        ask question = .error error := by
  -- The first question fails, or it is answered and the failure is the first of the rest.
  induction questions with
  | nil =>
    rw [List.mapM_nil]
    constructor
    · intro h
      cases h
    · rintro ⟨question, hfirst, _⟩
      exact absurd hfirst (not_isFirst_nil _ question)
  | cons question rest ih =>
    rw [List.mapM_cons, cons_answers_eq_error_iff, ih]
    simp only [isFirst_cons]
    constructor
    · rintro (herror | ⟨hanswer, found, hfound, herror⟩)
      · refine ⟨question, .inl ⟨rfl, ?_⟩, herror⟩
        rintro ⟨answer, hanswer⟩
        rw [herror] at hanswer
        cases hanswer
      · exact ⟨found, .inr ⟨hanswer, hfound⟩, herror⟩
    · rintro ⟨found, ⟨rfl, _⟩ | ⟨hanswer, hfound⟩, herror⟩
      · exact .inl herror
      · exact .inr ⟨hanswer, found, hfound, herror⟩

/-- All questions are answered exactly where each of them is. -/
theorem exists_mapM_iff {ask : α → Except ε β} {questions : List α} :
    (∃ answers, questions.mapM ask = .ok answers) ↔
      ∀ question ∈ questions, ∃ answer, ask question = .ok answer := by
  refine exists_ok_iff_of_error_iff (fun _ => mapM_eq_error_iff) fun question hquestion => ?_
  cases hask : ask question with
  | ok answer => exact absurd ⟨answer, hask⟩ hquestion
  | error error => exact ⟨error, rfl⟩

/-- Questions asked group by group fail as the first question without an answer in all groups does. -/
theorem mapM_mapM_eq_error_iff {ask : α → Except ε β} {groups : List (List α)} {error : ε} :
    groups.mapM (fun group => group.mapM ask) = .error error ↔
      ∃ question, IsFirst (fun question => ∃ answer, ask question = .ok answer) groups.flatten question ∧
        ask question = .error error := by
  induction groups with
  | nil =>
    rw [List.mapM_nil, List.flatten_nil]
    simp only [not_isFirst_nil, false_and, exists_false, iff_false]
    exact fun h => by cases h
  | cons group rest ih =>
    rw [List.mapM_cons, cons_answers_eq_error_iff, ih, mapM_eq_error_iff, exists_mapM_iff, List.flatten_cons]
    simp only [isFirst_append]
    constructor
    · rintro (⟨question, hfirst, herror⟩ | ⟨hall, question, hfirst, herror⟩)
      · exact ⟨question, .inl hfirst, herror⟩
      · exact ⟨question, .inr ⟨hall, hfirst⟩, herror⟩
    · rintro ⟨question, hfirst | ⟨hall, hfirst⟩, herror⟩
      · exact .inl ⟨question, hfirst, herror⟩
      · exact .inr ⟨hall, question, hfirst, herror⟩

/-- They are answered exactly when each has its own answer, group by group. -/
theorem mapM_mapM_eq_ok_iff {ask : α → Except ε β} {groups : List (List α)} {answers : List (List β)} :
    groups.mapM (fun group => group.mapM ask) = .ok answers ↔
      List.Forall₂ (List.Forall₂ fun question answer => ask question = .ok answer) groups answers := by
  simp only [mapM_eq_ok_iff]

/-- A property of all questions is one of all answers if it is so for each question and its answer. -/
theorem forall_mem_iff_of_forall₂ {holds : α → Prop} {holds' : β → Prop} {questions : List α} {answers : List β}
    (h : List.Forall₂ (fun question answer => holds question ↔ holds' answer) questions answers) :
    (∀ question ∈ questions, holds question) ↔ ∀ answer ∈ answers, holds' answer := by
  induction h with
  | nil => exact iff_of_true (List.forall_mem_nil _) (List.forall_mem_nil _)
  | cons hhead _ ih => rw [List.forall_mem_cons, List.forall_mem_cons, hhead, ih]

/-- Answers are the expected ones exactly if all questions have the property that says so. -/
theorem eq_map_iff_of_forall₂ {expected : α → β} {holds : α → Prop} {questions : List α}
    {answers : List β}
    (h : List.Forall₂ (fun question answer => answer = expected question ↔ holds question) questions answers) :
    answers = questions.map expected ↔ ∀ question ∈ questions, holds question := by
  induction h with
  | nil => exact iff_of_true rfl (List.forall_mem_nil _)
  | cons hhead _ ih => rw [List.map_cons, List.cons.injEq, List.forall_mem_cons, hhead, ih]

/-- Every question has its answer among the answers. -/
theorem exists_answer_of_mem {relation : α → β → Prop} {questions : List α} {answers : List β}
    (h : List.Forall₂ relation questions answers) {question : α} (hmem : question ∈ questions) :
    ∃ answer ∈ answers, relation question answer := by
  induction h with
  | nil => cases hmem
  | cons hhead _ ih =>
    rcases List.mem_cons.mp hmem with rfl | htail
    · exact ⟨_, List.mem_cons_self, hhead⟩
    · obtain ⟨answer, hanswer, hrelation⟩ := ih htail
      exact ⟨answer, List.mem_cons_of_mem _ hanswer, hrelation⟩

end

end SqlInsert
