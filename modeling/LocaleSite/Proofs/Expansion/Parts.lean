import LocaleSite.Proofs.Definition.Variables
import LocaleSite.Proofs.Expansion.Steps
import LocaleSite.Proofs.World

/-!
# Texts with references

A text is made of characters that stand for themselves and of references in braces. Read from the
left, each reference gives way to the value of its variable or to its default, and is not looked at
again. This needs no more than that the dollar signs among the other characters are lone: what
follows them begins neither a reference nor another dollar sign.

A text may be refused only for a reference without a default; the first of these whose variable is
unset is blamed.
-/

namespace LocaleSite

namespace Expansion

/-- A reference in braces. -/
structure Reference where
  name : String
  default : Option String
  name_ne_empty : name ≠ ""
  /-- The name is made of letters, digits and underscores. -/
  name_chars : ∀ c ∈ name.toList, c.isAlphanum = true ∨ c = '_'
  /-- The default does not close the braces. -/
  default_open : ∀ text, default = some text → '}' ∉ text.toList

namespace Reference

/-- What stands between the braces. -/
def inner (reference : Reference) : String :=
  match reference.default with
  | none => reference.name
  | some text => reference.name ++ ":-" ++ text

def written (reference : Reference) : String := "$\x7b" ++ reference.inner ++ "\x7d"

/-- A reference without a default. -/
def ofName (name : String) (name_ne_empty : name ≠ "")
    (name_chars : ∀ c ∈ name.toList, c.isAlphanum = true ∨ c = '_') : Reference where
  name
  default := none
  name_ne_empty
  name_chars
  default_open := nofun

end Reference

/-- A part of a text: a character that stands for itself, or a reference. -/
inductive Part where
  | plain (c : Char)
  | braced (reference : Reference)

def Part.written : Part → String
  | .plain c => String.singleton c
  | .braced reference => reference.written

/-- The text made of parts. -/
def written (parts : List Part) : String := String.join (parts.map Part.written)

/-- The parts of a text in which all characters stand for themselves. -/
def literal (text : String) : List Part := text.toList.map .plain

/-- What a part stands for in the surroundings of a run. -/
inductive Part.StandsFor (world : World) : Part → String → Prop where
  | plain (c : Char) : StandsFor world (.plain c) (String.singleton c)
  | value {reference : Reference} {value : String}
      (set : world.environment? reference.name = some value.toUTF8) :
      StandsFor world (.braced reference) value
  | default {reference : Reference} {text : String}
      (unset : ∀ value : String, world.environment? reference.name ≠ some value.toUTF8)
      (given : reference.default = some text) : StandsFor world (.braced reference) text

/-- A reference without a default, and its variable is unset. -/
def Reference.Missing (world : World) (reference : Reference) : Prop :=
  reference.default = none ∧
    ∀ value : String, world.environment? reference.name ≠ some value.toUTF8

/-- All references without a default name variables that are set. -/
def Provided (world : World) (parts : List Part) : Prop :=
  ∀ reference, .braced reference ∈ parts → reference.default = none →
    ∃ value : String, world.environment? reference.name = some value.toUTF8

/-- The reference is the first of a text that is missing. -/
def FirstMissing (world : World) (parts : List Part) (reference : Reference) : Prop :=
  ∃ before after, parts = before ++ .braced reference :: after ∧ reference.Missing world ∧
    Provided world before

/-- A dollar sign that stands for itself comes right before a character. -/
inductive DollarBefore (next : Char) : List Part → Prop where
  | here {rest : List Part} (follows : (written rest).toList.head? = some next) :
      DollarBefore next (.plain '$' :: rest)
  | later {part : Part} {rest : List Part} (inRest : DollarBefore next rest) :
      DollarBefore next (part :: rest)

/-- All dollar signs that stand for themselves have no meaning where they stand. -/
def Lone (parts : List Part) : Prop := ∀ next, DollarBefore next parts → leavesDollar next = true

variable {valueOf : String → Option String} {parts : List Part} {world : World}

/-! ## What is written -/

@[simp]
theorem not_dollarBefore_nil {next : Char} : ¬DollarBefore next [] := nofun

@[simp]
theorem dollarBefore_plain_iff {next c : Char} {rest : List Part} :
    DollarBefore next (.plain c :: rest) ↔
      c = '$' ∧ (written rest).toList.head? = some next ∨ DollarBefore next rest := by
  constructor
  · intro before
    cases before with
    | here follows => exact .inl ⟨rfl, follows⟩
    | later inRest => exact .inr inRest
  · rintro (⟨rfl, follows⟩ | inRest)
    · exact .here follows
    · exact .later inRest

@[simp]
theorem dollarBefore_braced_iff {next : Char} {reference : Reference} {rest : List Part} :
    DollarBefore next (.braced reference :: rest) ↔ DollarBefore next rest := by
  constructor
  · intro before
    cases before with
    | later inRest => exact inRest
  · exact .later

theorem Reference.toList_written (reference : Reference) :
    reference.written.toList = '$' :: '{' :: (reference.inner.toList ++ ['}']) := by
  simp [Reference.written]

@[simp]
theorem toList_written_plain (c : Char) (rest : List Part) :
    (written (.plain c :: rest)).toList = c :: (written rest).toList := by
  simp [written, Part.written]

@[simp]
theorem toList_written_braced (reference : Reference) (rest : List Part) :
    (written (.braced reference :: rest)).toList =
      '$' :: '{' :: (reference.inner.toList ++ '}' :: (written rest).toList) := by
  simp [written, Part.written, Reference.toList_written]

theorem colon_not_mem_name (reference : Reference) : ':' ∉ reference.name.toList := by
  intro colon
  rcases reference.name_chars ':' colon with letter | same
  · exact absurd letter (by decide)
  · exact absurd same (by decide)

theorem brace_not_mem_inner (reference : Reference) : '}' ∉ reference.inner.toList := by
  have notInName : '}' ∉ reference.name.toList := by
    intro brace
    rcases reference.name_chars '}' brace with letter | same
    · exact absurd letter (by decide)
    · exact absurd same (by decide)
  unfold Reference.inner
  split
  · exact notInName
  · rename_i text given
    simp [notInName, reference.default_open text given]

/-- The name and the default are told apart again. -/
theorem nameAndDefault_inner (reference : Reference) :
    nameAndDefault reference.inner.toList =
      (reference.name.toList, reference.default.map String.toList) := by
  have free := colon_not_mem_name reference
  unfold nameAndDefault Reference.inner
  cases given : reference.default with
  | none => simp [splitDefault_eq_none free]
  | some text =>
      have nonempty : reference.name.toList ≠ [] := by simpa using reference.name_ne_empty
      rcases List.exists_cons_of_ne_nil nonempty with ⟨first, others, chars⟩
      have split : splitDefault (reference.name ++ ":-" ++ text).toList =
          some (first :: others, text.toList) := by
        rw [← chars, ← splitDefault_append free]
        simp
      rw [split, chars, Option.map_some]

/-! ## The parts one by one -/

/-- What a part is replaced with. -/
def Part.value? (valueOf : String → Option String) : Part → Except Unset String
  | .plain c => .ok (String.singleton c)
  | .braced reference =>
      (resolve valueOf reference.name.toList (reference.default.map String.toList)).map
        String.ofList

theorem expandChars_written (lone : Lone parts) :
    expandChars valueOf (written parts).toList =
      (parts.mapM (Part.value? valueOf)).map fun values => (String.join values).toList := by
  induction parts with
  | nil => exact expandChars_nil
  | cons part rest ih =>
      have later := ih fun next inRest => lone next (.later inRest)
      rw [List.mapM_cons]
      cases part with
      | plain c =>
          have kept : expandChars valueOf (c :: (written rest).toList) =
              (expandChars valueOf (written rest).toList).map (c :: ·) := by
            by_cases dollar : c = '$'
            · subst dollar
              exact expandChars_lone fun next follows => lone next (.here follows)
            · exact expandChars_cons dollar _
          rw [toList_written_plain, kept, later]
          cases rest.mapM (Part.value? valueOf) <;>
            simp [Part.value?, bind, Except.bind, Except.map, pure, Except.pure]
      | braced reference =>
          rw [toList_written_braced, expandChars_braced (brace_not_mem_inner reference), later,
            nameAndDefault_inner, Part.value?]
          cases resolve valueOf reference.name.toList (reference.default.map String.toList) <;>
            cases rest.mapM (Part.value? valueOf) <;>
            simp [bind, Except.bind, Except.map, pure, Except.pure]

/-- A text has a brace after a dollar sign just when it has a reference. -/
theorem hasReference_written_iff (bare : ¬DollarBefore '{' parts) :
    hasReference (written parts).toList = true ↔ ∃ reference, .braced reference ∈ parts := by
  induction parts with
  | nil => simp [written, hasReference]
  | cons part rest ih =>
      have later := ih fun inRest => bare (.later inRest)
      cases part with
      | plain c =>
          have passed : hasReference (c :: (written rest).toList) =
              hasReference (written rest).toList := by
            rw [hasReference]
            rintro more rfl brace
            exact bare (.here (by rw [brace]; rfl))
          simp [passed, later]
      | braced reference =>
          simp [hasReference]

theorem expand_unreferenced (bare : ¬DollarBefore '{' parts)
    (unreferenced : ∀ reference, .braced reference ∉ parts) :
    expand valueOf (written parts) = .ok (written parts) := by
  have noReference : ¬hasReference (written parts).toList = true := by
    rw [hasReference_written_iff bare, not_exists]
    exact unreferenced
  rw [expand, if_neg noReference]

theorem expand_referenced (bare : ¬DollarBefore '{' parts) {reference : Reference}
    (reference_mem : .braced reference ∈ parts) :
    expand valueOf (written parts) =
      (expandChars valueOf (written parts).toList).map String.ofList := by
  rw [expand, if_pos ((hasReference_written_iff bare).2 ⟨reference, reference_mem⟩)]

theorem value?_unreferenced (unreferenced : ∀ reference, .braced reference ∉ parts) :
    parts.mapM (Part.value? valueOf) = .ok (parts.map Part.written) := by
  rw [Outcome.mapM_eq_ok_iff, List.forall₂_map_right_iff, List.forall₂_same]
  intro part part_mem
  cases part with
  | plain c => rfl
  | braced reference => exact absurd part_mem (unreferenced reference)

theorem expand_written (lone : Lone parts) :
    expand valueOf (written parts) = (parts.mapM (Part.value? valueOf)).map String.join := by
  have bare : ¬DollarBefore '{' parts := fun before => absurd (lone '{' before) (by decide)
  by_cases referenced : ∃ reference, .braced reference ∈ parts
  · rcases referenced with ⟨reference, reference_mem⟩
    rw [expand_referenced bare reference_mem, expandChars_written lone]
    cases parts.mapM (Part.value? valueOf) with
    | error unset => rfl
    | ok values => simp only [Except.map, String.ofList_toList]
  · rw [not_exists] at referenced
    rw [expand_unreferenced bare referenced, value?_unreferenced referenced]
    rfl

/-! ## What the parts stand for -/

theorem standsFor_braced_iff {reference : Reference} {value : String} :
    (Part.braced reference).StandsFor world value ↔
      world.text? reference.name = some value ∨
        world.text? reference.name = none ∧ reference.default = some value := by
  rw [World.text?_eq_some_iff, World.text?_eq_none_iff]
  constructor
  · intro stands
    cases stands with
    | value set => exact .inl set
    | default unset given => exact .inr ⟨unset, given⟩
  · rintro (set | ⟨unset, given⟩)
    · exact .value set
    · exact .default unset given

theorem standsFor_literal (text : String) :
    List.Forall₂ (Part.StandsFor world) (literal text) (text.toList.map String.singleton) := by
  rw [literal, List.forall₂_map_left_iff, List.forall₂_map_right_iff, List.forall₂_same]
  exact fun c _ => .plain c

theorem Reference.missing_iff {reference : Reference} :
    reference.Missing world ↔ reference.default = none ∧ world.text? reference.name = none := by
  rw [Missing, World.text?_eq_none_iff]

theorem Part.value?_eq_ok_iff {part : Part} {value : String} :
    part.value? world.text? = .ok value ↔ part.StandsFor world value := by
  cases part with
  | plain c =>
      rw [value?, Except.ok.injEq]
      constructor
      · rintro rfl
        exact .plain c
      · intro stands
        cases stands
        rfl
  | braced reference =>
      rw [standsFor_braced_iff]
      simp only [value?, resolve, String.ofList_toList]
      cases world.text? reference.name with
      | some text => simp [Except.map]
      | none => cases reference.default <;> simp [Except.map]

theorem values?_eq_ok_iff {values : List String} :
    parts.mapM (Part.value? world.text?) = .ok values ↔
      List.Forall₂ (Part.StandsFor world) parts values := by
  simp only [Outcome.mapM_eq_ok_iff, Part.value?_eq_ok_iff]

theorem Part.value?_eq_error_iff {part : Part} {unset : Unset} :
    part.value? world.text? = .error unset ↔
      ∃ reference, part = .braced reference ∧ reference.Missing world ∧
        unset = ⟨reference.name⟩ := by
  cases part with
  | plain c => simp [value?]
  | braced reference =>
      simp only [Part.braced.injEq, exists_eq_left', Reference.missing_iff, value?, resolve,
        String.ofList_toList]
      cases world.text? reference.name with
      | some text => simp [Except.map]
      | none => cases reference.default <;> simp [Except.map, eq_comm]

/-- A reference is provided for or missing. -/
theorem provided_iff : Provided world parts ↔
    ∀ part ∈ parts, ∃ value, part.value? world.text? = .ok value := by
  constructor
  · intro provided part part_mem
    by_contra refused
    rcases Outcome.exists_error_iff.2 refused with ⟨unset, failed⟩
    rcases Part.value?_eq_error_iff.1 failed with ⟨reference, rfl, ⟨none, missing⟩, rfl⟩
    rcases provided reference part_mem none with ⟨value, set⟩
    exact missing value set
  · intro valued reference reference_mem none
    rcases valued _ reference_mem with ⟨value, given⟩
    cases Part.value?_eq_ok_iff.1 given with
    | value set => exact ⟨_, set⟩
    | default unset given => simp [none] at given

theorem values?_eq_error_iff {unset : Unset} :
    parts.mapM (Part.value? world.text?) = .error unset ↔
      ∃ reference, FirstMissing world parts reference ∧ unset = ⟨reference.name⟩ := by
  rw [Outcome.mapM_eq_error_iff]
  constructor
  · rintro ⟨before, part, after, split, earlier, refused⟩
    rcases Part.value?_eq_error_iff.1 refused with ⟨reference, rfl, missing, rfl⟩
    exact ⟨reference, ⟨before, after, split, missing, provided_iff.2 earlier⟩, rfl⟩
  · rintro ⟨reference, ⟨before, after, split, missing, earlier⟩, rfl⟩
    exact ⟨before, _, after, split, provided_iff.1 earlier,
      Part.value?_eq_error_iff.2 ⟨reference, rfl, missing, rfl⟩⟩

section Expanded

variable {field : String}

theorem expandField_written_eq_ok_iff (lone : Lone parts) {result : String} :
    SiteDefinition.expandField world.text? field (written parts) = .ok result ↔
      ∃ values, List.Forall₂ (Part.StandsFor world) parts values ∧
        result = String.join values := by
  rw [SiteDefinition.expandField_eq_ok_iff, expand_written lone]
  simp only [← values?_eq_ok_iff]
  cases parts.mapM (Part.value? world.text?) <;> simp [Except.map, eq_comm]

theorem exists_expandField_written_iff (lone : Lone parts) :
    (∃ result, SiteDefinition.expandField world.text? field (written parts) = .ok result) ↔
      Provided world parts := by
  simp only [expandField_written_eq_ok_iff lone, provided_iff, Part.value?_eq_ok_iff]
  constructor
  · rintro ⟨_, values, stand, rfl⟩ part part_mem
    rcases Outcome.exists_of_mem_results stand.flip part_mem with ⟨value, _, stands⟩
    exact ⟨value, stands⟩
  · intro valued
    rcases Outcome.exists_results valued with ⟨values, stand⟩
    exact ⟨_, values, stand, rfl⟩

theorem expandField_written_eq_error_iff (lone : Lone parts) {error : ConfigError} :
    SiteDefinition.expandField world.text? field (written parts) = .error error ↔
      ∃ reference, FirstMissing world parts reference ∧
        error = .unset field ⟨reference.name⟩ := by
  have failed : ∀ unset, (parts.mapM (Part.value? world.text?)).map String.join = .error unset ↔
      ∃ reference, FirstMissing world parts reference ∧ unset = ⟨reference.name⟩ := by
    intro unset
    rw [← values?_eq_error_iff]
    cases parts.mapM (Part.value? world.text?) <;> simp [Except.map]
  simp only [SiteDefinition.expandField_eq_error_iff, expand_written lone, failed]
  constructor
  · rintro ⟨_, ⟨reference, first, rfl⟩, rfl⟩
    exact ⟨reference, first, rfl⟩
  · rintro ⟨reference, first, rfl⟩
    exact ⟨_, ⟨reference, first, rfl⟩, rfl⟩

end Expanded

theorem not_dollarBefore_of_dollarFree {next : Char} (dollarFree : .plain '$' ∉ parts) :
    ¬DollarBefore next parts := by
  intro before
  induction before with
  | here => exact dollarFree List.mem_cons_self
  | later _ ih => exact ih fun inRest => dollarFree (List.mem_cons_of_mem _ inRest)

/-- Where no dollar sign stands for itself, a text is expanded when its references without a
default are provided for, to what its parts stand for; or else the first one missing is blamed. -/
theorem expandField_dollarFree (world : World) (field : String) {parts : List Part}
    (dollarFree : .plain '$' ∉ parts) :
    ((∃ result, SiteDefinition.expandField world.text? field (written parts) = .ok result) ↔
      Provided world parts) ∧
    (∀ result, SiteDefinition.expandField world.text? field (written parts) = .ok result ↔
      ∃ values, List.Forall₂ (Part.StandsFor world) parts values ∧
        result = String.join values) ∧
    ∀ error, SiteDefinition.expandField world.text? field (written parts) = .error error ↔
      ∃ reference, FirstMissing world parts reference ∧
        error = .unset field ⟨reference.name⟩ ∧
        error.message = "Environment variable error in " ++ field ++ ": " ++ "$\x7b" ++
          reference.name ++ "\x7d not set" := by
  have lone : Lone parts := fun next before =>
    absurd before (not_dollarBefore_of_dollarFree dollarFree)
  refine ⟨exists_expandField_written_iff lone,
    fun result => expandField_written_eq_ok_iff lone, fun error => ?_⟩
  rw [expandField_written_eq_error_iff lone]
  constructor
  · rintro ⟨reference, first, rfl⟩
    exact ⟨reference, first, rfl, rfl⟩
  · rintro ⟨reference, first, same, _⟩
    exact ⟨reference, first, same⟩

/-- A reference to the owner of a repository, and one to a branch with a default. -/
def editParts : List Part :=
  literal "edit/" ++
    .braced (.ofName "OWNER" (by decide) (by simp)) ::
    .plain '/' ::
    [.braced {
      name := "BRANCH_1"
      default := some "$\x7bx:-"
      name_ne_empty := by decide
      name_chars := by simp
      default_open := by simp }]

/-- An owner whose name reads like a reference, and no branch. -/
def ownerWorld : World where
  entry? _ := none
  directory := []
  environment? name := if name = "OWNER" then some "${BRANCH_1}".toUTF8 else none

theorem expandField_editParts :
    .plain '$' ∉ editParts ∧ Provided ownerWorld editParts ∧
      SiteDefinition.expandField ownerWorld.text? "site.title" (written editParts) =
        .ok "edit/$\x7bBRANCH_1\x7d/$\x7bx:-" := by
  have dollarFree : .plain '$' ∉ editParts := by
    simp [editParts, literal]
  have expands := expandField_dollarFree ownerWorld "site.title" dollarFree
  have stand : List.Forall₂ (Part.StandsFor ownerWorld) editParts
      ("edit/".toList.map String.singleton ++ ["$\x7bBRANCH_1\x7d", "/", "$\x7bx:-"]) := by
    apply List.rel_append (standsFor_literal "edit/")
    refine .cons (.value rfl) (.cons (.plain '/') (.cons (.default ?_ rfl) .nil))
    simp [ownerWorld]
  have expanded := (expands.2.1 _).2 ⟨_, stand, rfl⟩
  exact ⟨dollarFree, expands.1.1 ⟨_, expanded⟩, expanded⟩

end Expansion

end LocaleSite
