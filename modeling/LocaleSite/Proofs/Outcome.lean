import Mathlib.Data.List.Forall2

/-!
# Outcomes of checks in sequence

A sequence of checks stops at the first that fails, so it succeeds just when each of them does,
and it fails with the error of one before which all succeed. What a longer computation checks is
told by its verdict: it fails just as a sequence of checks does.

Two runs are compared by `Related`: both succeed, with related results, or both fail, with related
errors.
-/

namespace LocaleSite.Outcome

variable {Error OtherError Value Result : Type}

theorem bind_eq_ok_iff {first : Except Error Value} {next : Value → Except Error Result}
    {result : Result} :
    first >>= next = .ok result ↔ ∃ value, first = .ok value ∧ next value = .ok result := by
  cases first <;> simp [bind, Except.bind]

theorem bind_eq_error_iff {first : Except Error Value} {next : Value → Except Error Result}
    {error : Error} :
    first >>= next = .error error ↔
      first = .error error ∨ ∃ value, first = .ok value ∧ next value = .error error := by
  cases first <;> simp [bind, Except.bind]

@[simp]
theorem pure_eq_ok_iff {value result : Value} :
    (pure value : Except Error Value) = .ok result ↔ result = value := by
  simp [pure, Except.pure, eq_comm]

/-- A check without a value of its own before another. -/
theorem unit_bind_eq_ok_iff {first : Except Error Unit} {next : Unit → Except Error Result}
    {result : Result} : first >>= next = .ok result ↔ first = .ok () ∧ next () = .ok result := by
  cases first <;> simp [bind, Except.bind]

theorem unit_bind_eq_error_iff {first : Except Error Unit} {next : Unit → Except Error Result}
    {error : Error} :
    first >>= next = .error error ↔
      first = .error error ∨ first = .ok () ∧ next () = .error error := by
  cases first <;> simp [bind, Except.bind]

@[simp]
theorem mapError_eq_ok_iff {outcome : Except Error Value} {change : Error → OtherError}
    {value : Value} : outcome.mapError change = .ok value ↔ outcome = .ok value := by
  cases outcome <;> simp [Except.mapError]

@[simp]
theorem mapError_eq_error_iff {outcome : Except Error Value} {change : Error → OtherError}
    {error : OtherError} :
    outcome.mapError change = .error error ↔
      ∃ cause, outcome = .error cause ∧ error = change cause := by
  cases outcome <;> simp [Except.mapError, eq_comm]

theorem exists_error_iff {outcome : Except Error Value} :
    (∃ error, outcome = .error error) ↔ ¬∃ value, outcome = .ok value := by
  cases outcome <;> simp

theorem forM_eq_ok_iff {values : List Value} {check : Value → Except Error Unit} :
    values.forM check = .ok () ↔ ∀ value ∈ values, check value = .ok () := by
  induction values with
  | nil => simp [pure, Except.pure]
  | cons value rest ih =>
      rw [List.forM_eq_forM] at ih ⊢
      rw [List.forM_cons, unit_bind_eq_ok_iff, ih, List.forall_mem_cons]

/-- A sequence of checks fails with the error of the first that does. -/
theorem forM_eq_error_iff {values : List Value} {check : Value → Except Error Unit}
    {error : Error} :
    values.forM check = .error error ↔
      ∃ before value after, values = before ++ value :: after ∧
        (∀ earlier ∈ before, check earlier = .ok ()) ∧ check value = .error error := by
  constructor
  · intro failed
    induction values with
    | nil => cases failed
    | cons value rest ih =>
        rw [List.forM_eq_forM] at ih failed
        rw [List.forM_cons, unit_bind_eq_error_iff] at failed
        rcases failed with here | ⟨passed, later⟩
        · exact ⟨[], value, rest, rfl, List.forall_mem_nil _, here⟩
        · rcases ih later with ⟨before, other, after, rfl, allPassed, there⟩
          have headPassed : ∀ earlier ∈ value :: before, check earlier = .ok () :=
            List.forall_mem_cons.2 ⟨passed, allPassed⟩
          exact ⟨value :: before, other, after, rfl, headPassed, there⟩
  · rintro ⟨before, value, after, rfl, allPassed, here⟩
    have passed : before.forM check = .ok () := forM_eq_ok_iff.2 allPassed
    rw [List.forM_eq_forM] at passed ⊢
    rw [List.forM_append, passed, List.forM_cons, here]
    rfl

/-- The error of a sequence of checks is that of one of them. -/
theorem exists_of_forM_eq_error {values : List Value} {check : Value → Except Error Unit}
    {error : Error} (failed : values.forM check = .error error) :
    ∃ value ∈ values, check value = .error error := by
  rcases forM_eq_error_iff.1 failed with ⟨before, value, after, rfl, _, here⟩
  exact ⟨value, by simp, here⟩

/-- Two lists are checked alike if their members are, one by one. -/
theorem forM_congr {left right : List Value} {leftCheck rightCheck : Value → Except Error Unit}
    (agree : List.Forall₂ (fun left right => leftCheck left = rightCheck right) left right) :
    left.forM leftCheck = right.forM rightCheck := by
  induction agree with
  | nil => rfl
  | cons here _ ih =>
      rw [List.forM_eq_forM] at ih ⊢
      rw [List.forM_cons, List.forM_cons, here, ih]

/-- Lists are mapped alike by what agrees on their members. -/
theorem mapM_congr {values : List Value} {left right : Value → Except Error Result}
    (agree : ∀ value ∈ values, left value = right value) :
    values.mapM left = values.mapM right := by
  induction values with
  | nil => rfl
  | cons value rest ih =>
      rcases List.forall_mem_cons.1 agree with ⟨here, later⟩
      rw [List.mapM_cons, List.mapM_cons, here, ih later]

/-- A list is mapped when each of its members is. -/
theorem mapM_eq_ok_iff {values : List Value} {change : Value → Except Error Result}
    {results : List Result} :
    values.mapM change = .ok results ↔
      List.Forall₂ (fun value result => change value = .ok result) values results := by
  induction values generalizing results with
  | nil => simp [pure, Except.pure, eq_comm]
  | cons value rest ih =>
      rw [List.mapM_cons, List.forall₂_cons_left_iff]
      cases here : change value with
      | error error => simp [bind, Except.bind]
      | ok result =>
          cases later : rest.mapM change with
          | error error => simp [bind, Except.bind, ← ih, later]
          | ok others => simp [bind, Except.bind, pure, Except.pure, ← ih, later, eq_comm]

/-- A member of the results belongs to a member of the list. -/
theorem exists_of_mem_results {relation : Value → Result → Prop} {values : List Value}
    {results : List Result} (related : List.Forall₂ relation values results) {result : Result}
    (result_mem : result ∈ results) : ∃ value ∈ values, relation value result := by
  induction related with
  | nil => cases result_mem
  | cons here _ ih =>
      rcases List.mem_cons.1 result_mem with rfl | later
      · exact ⟨_, List.mem_cons_self, here⟩
      · rcases ih later with ⟨value, value_mem, there⟩
        exact ⟨value, List.mem_cons_of_mem _ value_mem, there⟩

theorem exists_results {relation : Value → Result → Prop} {values : List Value}
    (each : ∀ value ∈ values, ∃ result, relation value result) :
    ∃ results, List.Forall₂ relation values results := by
  induction values with
  | nil => exact ⟨[], .nil⟩
  | cons value rest ih =>
      rcases List.forall_mem_cons.1 each with ⟨⟨result, here⟩, later⟩
      rcases ih later with ⟨results, there⟩
      exact ⟨result :: results, .cons here there⟩

/-! ## Verdicts -/

/-- An outcome without its value. -/
def verdict (outcome : Except Error Value) : Except Error Unit := outcome.map fun _ => ()

theorem verdict_eq_ok_iff {outcome : Except Error Value} :
    verdict outcome = .ok () ↔ ∃ value, outcome = .ok value := by
  cases outcome <;> simp [verdict, Except.map]

theorem verdict_eq_error_iff {outcome : Except Error Value} {error : Error} :
    verdict outcome = .error error ↔ outcome = .error error := by
  cases outcome <;> simp [verdict, Except.map]

section Checks

variable {Check : Type} {check : Check → Except Error Unit}

/-- What comes after another is checked after it. -/
theorem verdict_bind {checks others : List Check} {first : Except Error Value}
    {next : Value → Except Error Result} (firstVerdict : verdict first = checks.forM check)
    (nextVerdict : ∀ value, verdict (next value) = others.forM check) :
    verdict (first >>= next) = (checks ++ others).forM check := by
  rw [List.forM_eq_forM] at firstVerdict ⊢
  rw [List.forM_append, ← firstVerdict]
  cases first with
  | error error => rfl
  | ok value => exact nextVerdict value

theorem verdict_mapM {checks : Value → List Check} {values : List Value}
    {change : Value → Except Error Result}
    (each : ∀ value, verdict (change value) = (checks value).forM check) :
    verdict (values.mapM change) = (values.flatMap checks).forM check := by
  induction values with
  | nil => rfl
  | cons value rest ih =>
      rw [List.mapM_cons, List.flatMap_cons]
      apply verdict_bind (each value)
      intro result
      rw [← List.append_nil (rest.flatMap checks)]
      exact verdict_bind ih fun _ => rfl

end Checks

/-- A mapped list fails with the error of the first member that does. -/
theorem mapM_eq_error_iff {values : List Value} {change : Value → Except Error Result}
    {error : Error} :
    values.mapM change = .error error ↔
      ∃ before value after, values = before ++ value :: after ∧
        (∀ earlier ∈ before, ∃ result, change earlier = .ok result) ∧
        change value = .error error := by
  have checked : verdict (values.mapM change) =
      values.forM fun value => verdict (change value) := by
    have each : ∀ value, verdict (change value) =
        [value].forM fun value => verdict (change value) := by
      intro value
      rw [List.forM_eq_forM, List.forM_cons]
      cases change value <;> rfl
    rw [verdict_mapM each, List.flatMap_singleton']
  rw [← verdict_eq_error_iff, checked, forM_eq_error_iff]
  simp only [verdict_eq_ok_iff, verdict_eq_error_iff]

theorem exists_of_mapM_eq_error {values : List Value} {change : Value → Except Error Result}
    {error : Error} (failed : values.mapM change = .error error) :
    ∃ value ∈ values, change value = .error error := by
  rcases mapM_eq_error_iff.1 failed with ⟨before, value, after, rfl, _, here⟩
  exact ⟨value, by simp, here⟩

/-! ## Two runs -/

inductive Related {LeftError RightError LeftValue RightValue : Type}
    (errors : LeftError → RightError → Prop) (results : LeftValue → RightValue → Prop) :
    Except LeftError LeftValue → Except RightError RightValue → Prop where
  | ok {left : LeftValue} {right : RightValue} (related : results left right) :
      Related errors results (.ok left) (.ok right)
  | error {left : LeftError} {right : RightError} (related : errors left right) :
      Related errors results (.error left) (.error right)

namespace Related

variable {LeftValue RightValue LeftResult RightResult : Type} {errors : Error → Error → Prop}
  {values : LeftValue → RightValue → Prop} {results : LeftResult → RightResult → Prop}

theorem of_eq (same : ∀ error, errors error error) {left right : Except Error Value}
    (equal : left = right) : Related errors Eq left right := by
  subst equal
  cases left with
  | error error => exact .error (same error)
  | ok value => exact .ok rfl

theorem bind {left : Except Error LeftValue} {right : Except Error RightValue}
    {leftNext : LeftValue → Except Error LeftResult}
    {rightNext : RightValue → Except Error RightResult} (first : Related errors values left right)
    (next : ∀ {leftValue rightValue}, values leftValue rightValue →
      Related errors results (leftNext leftValue) (rightNext rightValue)) :
    Related errors results (left >>= leftNext) (right >>= rightNext) := by
  cases first with
  | ok related => exact next related
  | error related => exact .error related

theorem mapError {otherErrors : OtherError → OtherError → Prop} {change : Error → OtherError}
    {left : Except Error LeftValue} {right : Except Error RightValue}
    (related : Related errors values left right)
    (carry : ∀ {leftError rightError}, errors leftError rightError →
      otherErrors (change leftError) (change rightError)) :
    Related otherErrors values (left.mapError change) (right.mapError change) := by
  cases related with
  | ok related => exact .ok related
  | error related => exact .error (carry related)

/-- What follows from the relation of two results and from their being returned. -/
theorem of_runs {otherValues : LeftValue → RightValue → Prop} {left : Except Error LeftValue}
    {right : Except Error RightValue} (related : Related errors values left right)
    (follows : ∀ {leftValue rightValue}, left = .ok leftValue → right = .ok rightValue →
      values leftValue rightValue → otherValues leftValue rightValue) :
    Related errors otherValues left right := by
  cases related with
  | ok related => exact .ok (follows rfl rfl related)
  | error related => exact .error related

/-- Two runs over one list are related if they are at each member. -/
theorem mapM {members : List Value} {left : Value → Except Error LeftResult}
    {right : Value → Except Error RightResult}
    (each : ∀ member ∈ members, Related errors results (left member) (right member)) :
    Related errors (List.Forall₂ results) (members.mapM left) (members.mapM right) := by
  induction members with
  | nil => exact .ok .nil
  | cons member rest ih =>
      rcases List.forall_mem_cons.1 each with ⟨here, later⟩
      rw [List.mapM_cons, List.mapM_cons]
      apply here.bind
      intro leftResult rightResult related
      apply (ih later).bind
      intro leftRest rightRest restRelated
      exact .ok (.cons related restRelated)

end Related

end LocaleSite.Outcome
