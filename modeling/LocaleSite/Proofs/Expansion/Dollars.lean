import LocaleSite.Proofs.Expansion.Parts

/-!
# Dollar signs that stand for themselves

A text without references is left as it is. In one with references, a dollar sign that stands for
itself is kept where it is lone: before a letter, a digit or an underscore it begins a reference
without braces, and of two in a row one is dropped, together with the meaning of the other. Such
text is kept in all surroundings of a run just when all its dollar signs are lone.

That it is not kept otherwise shows where every variable is a dash, since a dash is neither a dollar
sign nor a brace: what a meaning has been given to, or taken from, does not read as it was written.
-/

namespace LocaleSite.Expansion

variable {parts rest : List Part}

/-- What comes after a dollar sign that stands for itself, a brace apart. -/
inductive AfterDollar : List Part → Prop where
  | lone {rest : List Part}
      (leaves : ∀ next, (written rest).toList.head? = some next → leavesDollar next = true) :
      AfterDollar rest
  | named {rest : List Part} {c : Char} {more : List Char}
      (chars : (written rest).toList = c :: more) (isName : isNameChar c = true) :
      AfterDollar rest
  | braced (reference : Reference) (rest : List Part) : AfterDollar (.braced reference :: rest)
  | dollar (rest : List Part) : AfterDollar (.plain '$' :: rest)

theorem afterDollar (bare : ¬DollarBefore '{' (.plain '$' :: rest)) : AfterDollar rest := by
  cases rest with
  | nil => exact .lone (by simp [written])
  | cons part rest =>
      cases part with
      | braced reference => exact .braced reference rest
      | plain c =>
          have notBrace : c ≠ '{' := by
            rintro rfl
            exact bare (.here (by simp))
          by_cases dollar : c = '$'
          · exact dollar ▸ .dollar rest
          · cases isName : isNameChar c with
            | true => exact .named (toList_written_plain c rest) isName
            | false => exact .lone (by simp [leavesDollar, notBrace, dollar, isName])

/-! ## Where every variable is a dash -/

/-- Surroundings in which every variable is a dash. -/
def dashWorld : World where
  entry? _ := none
  directory := []
  environment? _ := some "-".toUTF8

/-- The character that a part stands for where every variable is a dash. -/
def Part.dashed : Part → Char
  | .plain c => c
  | .braced _ => '-'

theorem text?_dashWorld (name : String) : dashWorld.text? name = some "-" :=
  World.text?_eq_some_iff.2 rfl

theorem resolve_dashWorld (name : List Char) (default : Option (List Char)) :
    resolve dashWorld.text? name default = .ok ['-'] := by
  unfold resolve
  rw [text?_dashWorld]
  rfl

theorem map_cons_eq_ok_iff {outcome : Except Unset (List Char)} {c d : Char} {chars : List Char} :
    outcome.map (c :: ·) = .ok (d :: chars) ↔ c = d ∧ outcome = .ok chars := by
  cases outcome <;> simp [Except.map]

theorem expandChars_braced_dashed (reference : Reference) (rest : List Part) :
    expandChars dashWorld.text? (written (.braced reference :: rest)).toList =
      (expandChars dashWorld.text? (written rest).toList).map ('-' :: ·) := by
  rw [toList_written_braced, expandChars_braced (brace_not_mem_inner reference), resolve_dashWorld]
  rfl

/-- A dollar sign before a name gives way to a dash. -/
theorem expandChars_named_ne {c : Char} {more chars : List Char} (isName : isNameChar c = true) :
    expandChars dashWorld.text? ('$' :: c :: more) ≠ .ok ('$' :: chars) := by
  have dashed : expandChars dashWorld.text? ('$' :: c :: more) =
      (expandChars dashWorld.text? (more.dropWhile isNameChar)).map ('-' :: ·) := by
    rw [expandChars_named isName, resolve_dashWorld]
    rfl
  rw [dashed, Ne, map_cons_eq_ok_iff]
  exact fun same => absurd same.1 (by decide)

/-- A dollar sign before a reference takes its meaning away. -/
theorem expandChars_dollar_braced_ne {reference : Reference} {count : Nat} :
    expandChars dashWorld.text? ('$' :: (written (.braced reference :: rest)).toList) ≠
      .ok ('$' :: (List.replicate count '$' ++
        (Part.braced reference :: rest).map Part.dashed)) := by
  rw [toList_written_braced, expandChars_doubled, expandChars_cons (by decide), Ne,
    map_cons_eq_ok_iff]
  rintro ⟨-, same⟩
  cases count with
  | zero => exact absurd (map_cons_eq_ok_iff.1 same).1 (by simp [Part.dashed])
  | succ count => exact absurd (map_cons_eq_ok_iff.1 same).1 (by decide)

/-- What begins with another character does not begin with dollar signs. -/
theorem map_cons_ne_dollars {outcome : Except Unset (List Char)} {c : Char} {chars : List Char}
    (notDollar : c ≠ '$') {count : Nat} (later : count = 0 → outcome ≠ .ok chars) :
    outcome.map (c :: ·) ≠ .ok (List.replicate count '$' ++ c :: chars) := by
  cases count with
  | zero =>
      rw [List.replicate_zero, List.nil_append, Ne, map_cons_eq_ok_iff]
      exact fun same => later rfl same.2
  | succ count =>
      rw [List.replicate_succ, List.cons_append, Ne, map_cons_eq_ok_iff]
      exact fun same => notDollar same.1

theorem replicate_append_dashed (count : Nat) (rest : List Part) :
    List.replicate count '$' ++ (Part.plain '$' :: rest).map Part.dashed =
      '$' :: (List.replicate count '$' ++ rest.map Part.dashed) := by
  rw [← List.cons_append, ← List.replicate_succ, List.replicate_succ', List.append_assoc]
  rfl

/-- A text in which a dollar sign has a meaning does not expand to itself, nor does any text expand
to itself after some more dollar signs. -/
theorem expandChars_ne_dollars {parts : List Part} (bare : ¬DollarBefore '{' parts) {count : Nat}
    (touched : 0 < count ∨ ∃ next, DollarBefore next parts ∧ leavesDollar next = false) :
    expandChars dashWorld.text? (written parts).toList ≠
      .ok (List.replicate count '$' ++ parts.map Part.dashed) := by
  match parts with
  | [] =>
      rcases touched with more | ⟨_, before, _⟩
      · simp [written, expandChars_nil, Nat.ne_of_gt more]
      · cases before
  | .braced reference :: rest =>
      rw [expandChars_braced_dashed]
      apply map_cons_ne_dollars (by decide)
      rintro rfl
      rw [dollarBefore_braced_iff] at bare
      simp only [dollarBefore_braced_iff] at touched
      exact expandChars_ne_dollars bare touched
  | .plain c :: rest =>
      rw [toList_written_plain]
      by_cases dollar : c = '$'
      · subst dollar
        rw [replicate_append_dashed]
        cases afterDollar bare with
        | lone leaves =>
            have touchedRest : 0 < count ∨
                ∃ next, DollarBefore next rest ∧ leavesDollar next = false := by
              apply touched.imp_right
              rintro ⟨next, before, takes⟩
              cases before with
              | here follows => exact absurd (leaves next follows) (by simp [takes])
              | later inRest => exact ⟨next, inRest, takes⟩
            rw [expandChars_lone leaves, Ne, map_cons_eq_ok_iff]
            exact fun same =>
              expandChars_ne_dollars (fun inRest => bare (.later inRest)) touchedRest same.2
        | named chars isName =>
            rw [chars]
            exact expandChars_named_ne isName
        | braced reference rest => exact expandChars_dollar_braced_ne
        -- Two dollar signs are read and one is written: the rest has one more to make up for.
        | dollar rest =>
            rw [replicate_append_dashed, toList_written_plain, expandChars_doubled, Ne,
              map_cons_eq_ok_iff, ← List.cons_append, ← List.replicate_succ]
            exact fun same =>
              expandChars_ne_dollars (fun inRest => bare (.later (.later inRest)))
                (.inl (Nat.succ_pos count)) same.2
      · rw [expandChars_cons dollar]
        apply map_cons_ne_dollars dollar
        rintro rfl
        simp only [dollarBefore_plain_iff, dollar, false_and, false_or] at bare touched
        exact expandChars_ne_dollars bare touched
termination_by parts.length

theorem toList_join_of_dashWorld {values : List String}
    (stand : List.Forall₂ (Part.StandsFor dashWorld) parts values) :
    (String.join values).toList = parts.map Part.dashed := by
  induction stand with
  | nil => rfl
  | @cons part value rest values stands _ ih =>
      have here : value.toList = [part.dashed] := by
        cases part with
        | plain c =>
            cases stands
            exact String.toList_singleton c
        | braced reference =>
            rcases standsFor_braced_iff.1 stands with set | ⟨unset, _⟩
            · rw [text?_dashWorld] at set
              cases set
              rfl
            · rw [text?_dashWorld] at unset
              cases unset
      rw [String.toList_join] at ih ⊢
      rw [List.flatMap_cons, here, ih]
      rfl

/-- Where every variable is a dash, a text with a reference and a dollar sign that has a meaning
does not become what its parts stand for. -/
theorem expandField_dashWorld_ne (bare : ¬DollarBefore '{' parts) {reference : Reference}
    (reference_mem : .braced reference ∈ parts) {next : Char} (before : DollarBefore next parts)
    (takes : leavesDollar next = false) {values : List String}
    (stand : List.Forall₂ (Part.StandsFor dashWorld) parts values) (field : String) :
    SiteDefinition.expandField dashWorld.text? field (written parts) ≠
      .ok (String.join values) := by
  rw [Ne, SiteDefinition.expandField_eq_ok_iff, expand_referenced bare reference_mem]
  have notKept := expandChars_ne_dollars bare (.inr ⟨next, before, takes⟩ : 0 < 0 ∨ _)
  rw [List.replicate_zero, List.nil_append, ← toList_join_of_dashWorld stand] at notKept
  intro expanded
  cases outcome : expandChars dashWorld.text? (written parts).toList with
  | error unset =>
      rw [outcome] at expanded
      cases expanded
  | ok chars =>
      rw [outcome] at expanded
      apply notKept
      rw [outcome, ← Except.ok.inj expanded, String.toList_ofList]

/-- A text without a brace right after a dollar sign that stands for itself is kept but for its
references, in all surroundings that provide for these, just when it has no references or all such
dollar signs are before characters that are neither dollar signs nor those of names. -/
theorem expandField_keeps_plain_iff (field : String) {parts : List Part}
    (bare : ¬DollarBefore '{' parts) :
    (∀ world, Provided world parts →
      ∃ values, List.Forall₂ (Part.StandsFor world) parts values ∧
        SiteDefinition.expandField world.text? field (written parts) =
          .ok (String.join values)) ↔
      (∀ reference, .braced reference ∉ parts) ∨
        ∀ next, DollarBefore next parts → next ≠ '$' ∧ isNameChar next = false := by
  have leaves_iff : ∀ next, DollarBefore next parts →
      (leavesDollar next = true ↔ next ≠ '$' ∧ isNameChar next = false) := by
    intro next before
    have notBrace : next ≠ '{' := by
      rintro rfl
      exact bare before
    simp [leavesDollar, notBrace]
  constructor
  · intro kept
    by_contra refuted
    rw [not_or, not_forall_not, not_forall] at refuted
    rcases refuted with ⟨⟨reference, reference_mem⟩, next, notLone⟩
    rw [Classical.not_imp] at notLone
    rcases notLone with ⟨before, takes⟩
    rw [← leaves_iff next before, Bool.not_eq_true] at takes
    rcases kept dashWorld fun _ _ _ => ⟨"-", rfl⟩ with ⟨values, stand, expanded⟩
    exact expandField_dashWorld_ne bare reference_mem before takes stand field expanded
  · rintro (unreferenced | lone) world provided
    · refine ⟨parts.map Part.written, values?_eq_ok_iff.1 (value?_unreferenced unreferenced), ?_⟩
      rw [SiteDefinition.expandField, expand_unreferenced bare unreferenced]
      rfl
    · have allLone : Lone parts := fun next before => (leaves_iff next before).2 (lone next before)
      rcases (exists_expandField_written_iff allLone).2 provided with ⟨result, expanded⟩
      rcases (expandField_written_eq_ok_iff allLone).1 expanded with ⟨values, stand, rfl⟩
      exact ⟨values, stand, expanded⟩

/-- A text that ends in a reference. -/
def priced (text : String) : List Part :=
  literal text ++ [.braced (.ofName "NAME" (by decide) (by simp))]

def docsWorld : World where
  entry? _ := none
  directory := []
  environment? name := if name = "NAME" then some "Docs".toUTF8 else none

theorem provided_priced (text : String) : Provided docsWorld (priced text) := by
  intro reference reference_mem _
  simp only [priced, literal, List.mem_append, List.mem_map, reduceCtorEq, and_false, exists_false,
    List.mem_singleton, Part.braced.injEq, false_or] at reference_mem
  subst reference_mem
  exact ⟨"Docs", rfl⟩

theorem expandField_keeps_lone_price :
    ¬DollarBefore '{' (priced "5 $ for ") ∧ Provided docsWorld (priced "5 $ for ") ∧
      ∃ values, List.Forall₂ (Part.StandsFor docsWorld) (priced "5 $ for ") values ∧
        SiteDefinition.expandField docsWorld.text? "site.title" (written (priced "5 $ for ")) =
          .ok (String.join values) := by
  have onlyBlank : ∀ next, DollarBefore next (priced "5 $ for ") → next = ' ' := by
    intro next before
    simpa [priced, literal, eq_comm] using before
  have bare : ¬DollarBefore '{' (priced "5 $ for ") := fun before =>
    absurd (onlyBlank '{' before) (by decide)
  have lone : ∀ next, DollarBefore next (priced "5 $ for ") →
      next ≠ '$' ∧ isNameChar next = false := by
    intro next before
    rw [onlyBlank next before]
    decide +kernel
  have kept := (expandField_keeps_plain_iff "site.title" bare).2 (.inr lone)
  exact ⟨bare, provided_priced _, kept docsWorld (provided_priced _)⟩

/-- A price is taken for a reference, and of two dollar signs one is dropped. -/
theorem expandField_touches_prices :
    (¬DollarBefore '{' (priced "Cost: $5 for ") ∧ Provided docsWorld (priced "Cost: $5 for ") ∧
      SiteDefinition.expandField docsWorld.text? "site.title" (written (priced "Cost: $5 for ")) =
        .error (.unset "site.title" ⟨"5"⟩)) ∧
    ¬DollarBefore '{' (priced "US$$ for ") ∧ Provided docsWorld (priced "US$$ for ") ∧
      SiteDefinition.expandField docsWorld.text? "site.title" (written (priced "US$$ for ")) =
        .ok "US$ for Docs" := by
  have refused : expand docsWorld.text? (written (priced "Cost: $5 for ")) = .error ⟨"5"⟩ := by
    decide +kernel
  have changed : expand docsWorld.text? (written (priced "US$$ for ")) = .ok "US$ for Docs" := by
    decide +kernel
  refine ⟨⟨?_, provided_priced _, ?_⟩, ?_, provided_priced _, ?_⟩
  · simp [priced, literal]
  · rw [SiteDefinition.expandField, refused]
    rfl
  · simp [priced, literal]
  · rw [SiteDefinition.expandField, changed]
    rfl

end LocaleSite.Expansion
