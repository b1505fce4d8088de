import LocaleSite.Route

/-!
# Directories of routes

A path lies in the directory of a name when it begins with the name between slashes. The test on
characters agrees with this, and a path lies in the directory of at most one name without a slash.

The test for route roots, which looks for slashes at both ends and for two in a row, accepts just
the directories of segments that are not empty and hold no slash. The root of a name passes it when
the name is made of such segments, and of two joined names when both are.
-/

namespace LocaleSite.Route

/-- A path begins with a name between slashes. -/
def Within (name path : String) : Prop := ∃ rest, path = "/" ++ name ++ "/" ++ rest

theorem startsWith_iff {path start : String} :
    startsWith path start = true ↔ ∃ rest, path = start ++ rest := by
  unfold startsWith
  rw [List.isPrefixOf_iff_prefix]
  constructor
  · rintro ⟨rest, same⟩
    refine ⟨String.ofList rest, String.toList_injective ?_⟩
    simp [same]
  · rintro ⟨rest, rfl⟩
    exact ⟨rest.toList, by simp⟩

@[simp]
theorem isUnder_iff {name path : String} : isUnder name path = true ↔ Within name path :=
  startsWith_iff

/-- What stands before the first slash is determined by the whole. -/
theorem eq_of_append_slash_eq {left right : List Char} {leftRest rightRest : List Char}
    (leftFree : '/' ∉ left) (rightFree : '/' ∉ right)
    (same : left ++ '/' :: leftRest = right ++ '/' :: rightRest) : left = right := by
  have before : ∀ {segment rest : List Char}, '/' ∉ segment →
      (segment ++ '/' :: rest).takeWhile (· != '/') = segment := by
    intro segment rest free
    rw [List.takeWhile_append_of_pos]
    · simp
    · intro c mem
      simpa using fun slash : c = '/' => free (slash ▸ mem)
  rw [← before leftFree, same, before rightFree]

/-- A path lies in the directory of at most one segment. -/
theorem Within.unique {left right path : String} (leftFree : '/' ∉ left.toList)
    (rightFree : '/' ∉ right.toList) (inLeft : Within left path) (inRight : Within right path) :
    left = right := by
  rcases inLeft with ⟨leftRest, rfl⟩
  rcases inRight with ⟨rightRest, same⟩
  have sameChars := congrArg String.toList same
  simp only [String.toList_append, List.append_assoc] at sameChars
  apply String.toList_injective
  exact eq_of_append_slash_eq leftFree rightFree (by simpa using sameChars)

/-- A path below a route root lies in the directory of a segment only if the root does. -/
theorem Within.eq_or_extends {name dir rest : String} (free : '/' ∉ name.toList)
    (inside : Within name (root dir ++ rest)) : dir = name ∨ ∃ more, dir = name ++ "/" ++ more := by
  rcases inside with ⟨otherRest, same⟩
  have sameChars := congrArg String.toList same
  simp only [root, String.toList_append, List.append_assoc] at sameChars
  have sameTail : dir.toList ++ '/' :: rest.toList = name.toList ++ '/' :: otherRest.toList := by
    simpa using sameChars
  by_cases slash : '/' ∈ dir.toList
  · rcases List.eq_append_cons_of_mem slash with ⟨segment, more, split, segmentFree⟩
    right
    have sameSegment : segment = name.toList := by
      apply eq_of_append_slash_eq segmentFree free
      rw [← sameTail, split, List.append_assoc, List.cons_append]
    refine ⟨String.ofList more, String.toList_injective ?_⟩
    simp [split, sameSegment]
  · left
    exact String.toList_injective (eq_of_append_slash_eq slash free sameTail)

/-! ## Route roots -/

theorem isRoot_ofList_iff {rest : List Char} :
    isRoot (String.ofList ('/' :: rest)) = true ↔
      ('/' :: rest).getLast? = some '/' ∧ hasEmptySegment ('/' :: rest) = false := by
  simp [isRoot]

theorem hasEmptySegment_append {segment : List Char} (free : '/' ∉ segment) (rest : List Char) :
    hasEmptySegment (segment ++ rest) = hasEmptySegment rest := by
  induction segment with
  | nil => rfl
  | cons c more ih =>
      rw [List.mem_cons, not_or] at free
      rw [List.cons_append, ← ih free.2]
      cases more ++ rest <;> simp [hasEmptySegment, Ne.symm free.1]

/-- The first segment does not matter for whether a path is a route root. -/
theorem isRoot_segment_iff {segment : List Char} (nonempty : segment ≠ []) (free : '/' ∉ segment)
    {rest : List Char} :
    isRoot (String.ofList ('/' :: (segment ++ '/' :: rest))) = true ↔
      isRoot (String.ofList ('/' :: rest)) = true := by
  have sameEmpty : hasEmptySegment ('/' :: (segment ++ '/' :: rest)) =
      hasEmptySegment ('/' :: rest) := by
    rw [← hasEmptySegment_append free ('/' :: rest)]
    cases segment with
    | nil => exact absurd rfl nonempty
    | cons c more =>
        have notSlash : c ≠ '/' := fun same => free (same ▸ List.mem_cons_self)
        simp [hasEmptySegment, notSlash]
  have sameLast : ('/' :: (segment ++ '/' :: rest)).getLast? = ('/' :: rest).getLast? := by
    rw [← List.cons_append, List.getLast?_append, List.getLast?_cons, Option.some_or]
  rw [isRoot_ofList_iff, isRoot_ofList_iff, sameEmpty, sameLast]

/-- The directory of segments: after a slash, each segment with a slash at its end. -/
def directory (segments : List String) : String := "/" ++ String.join (segments.map (· ++ "/"))

theorem directory_cons (segment : String) (segments : List String) :
    directory (segment :: segments) =
      String.ofList ('/' :: (segment.toList ++ (directory segments).toList)) := by
  apply String.toList_injective
  simp [directory]

theorem exists_rest (segments : List String) :
    ∃ rest : List Char, directory segments = String.ofList ('/' :: rest) :=
  ⟨(String.join (segments.map (· ++ "/"))).toList, String.toList_injective (by simp [directory])⟩

/-- A path that begins and ends in a slash is that slash, or its first segment ends in one. -/
theorem exists_segments_of_isRoot {rest : List Char}
    (isRooted : isRoot (String.ofList ('/' :: rest)) = true) :
    ∃ segments : List String, (∀ segment ∈ segments, segment ≠ "" ∧ '/' ∉ segment.toList) ∧
      String.ofList ('/' :: rest) = directory segments := by
  rcases isRoot_ofList_iff.1 isRooted with ⟨endsInSlash, noneEmpty⟩
  by_cases slash : '/' ∈ rest
  · rcases List.eq_append_cons_of_mem slash with ⟨segment, more, rfl, free⟩
    have nonempty : segment ≠ [] := by
      rintro rfl
      simp [hasEmptySegment] at noneEmpty
    rcases exists_segments_of_isRoot ((isRoot_segment_iff nonempty free).1 isRooted) with
      ⟨segments, fit, same⟩
    refine ⟨String.ofList segment :: segments, ?_, ?_⟩
    · exact List.forall_mem_cons.2 ⟨by simpa using ⟨nonempty, free⟩, fit⟩
    · rw [directory_cons, ← same, String.toList_ofList, String.toList_ofList]
  · cases rest with
    | nil => exact ⟨[], by simp, rfl⟩
    | cons c more =>
        rw [List.getLast?_cons_cons] at endsInSlash
        exact absurd (List.mem_of_getLast? endsInSlash) slash
termination_by rest.length

/-- A route root is a directory of segments that are not empty and hold no slash. -/
theorem isRoot_iff {path : String} :
    isRoot path = true ↔
      ∃ segments : List String, (∀ segment ∈ segments, segment ≠ "" ∧ '/' ∉ segment.toList) ∧
        path = directory segments := by
  constructor
  · intro isRooted
    cases chars : path.toList with
    | nil => simp [isRoot, chars] at isRooted
    | cons first rest =>
        have isSlash : first = '/' := by
          simp only [isRoot, chars, List.head?_cons, Bool.and_eq_true, beq_iff_eq,
            Option.some.injEq] at isRooted
          exact isRooted.1.1
        have whole : path = String.ofList ('/' :: rest) := by
          rw [← isSlash, ← chars, String.ofList_toList]
        rw [whole] at isRooted ⊢
        exact exists_segments_of_isRoot isRooted
  · rintro ⟨segments, fit, rfl⟩
    induction segments with
    | nil => rfl
    | cons segment segments ih =>
        rcases List.forall_mem_cons.1 fit with ⟨⟨nonempty, free⟩, laterFit⟩
        have isRooted := ih laterFit
        rcases exists_rest segments with ⟨rest, same⟩
        rw [directory_cons, same, String.toList_ofList]
        rw [same] at isRooted
        exact (isRoot_segment_iff (by simpa using nonempty) free).2 isRooted

/-! ## Names of nested directories -/

/-- A name is one or more segments, not empty and without a slash, joined by slashes. -/
def IsNested (name : String) : Prop :=
  ∃ segments : List String, segments ≠ [] ∧
    (∀ segment ∈ segments, segment ≠ "" ∧ '/' ∉ segment.toList) ∧ name = "/".intercalate segments

theorem root_injective {left right : String} (same : root left = root right) : left = right := by
  have sameChars := congrArg String.toList same
  simp only [root, String.toList_append, List.append_assoc] at sameChars
  apply String.toList_injective
  simpa using sameChars

/-- The root of a directory in another is that of the outer one, then the inner name and a slash. -/
theorem root_append (outer inner : String) :
    root (outer ++ "/" ++ inner) = "/" ++ outer ++ root inner := by
  simp only [root, String.append_assoc]

theorem directory_eq_root {segments : List String} (nonempty : segments ≠ []) :
    directory segments = root ("/".intercalate segments) := by
  induction segments with
  | nil => exact absurd rfl nonempty
  | cons segment rest ih =>
      cases rest with
      | nil => simp [directory, root, String.append_assoc]
      | cons next more =>
          have outermost : directory (segment :: next :: more) =
              "/" ++ segment ++ directory (next :: more) := by
            simp [directory, String.append_assoc]
          rw [outermost, ih (by simp), String.intercalate_cons_cons, root_append]

/-- The root of a name is a route root when the name is that of a nested directory. -/
theorem isRoot_root_iff {name : String} : isRoot (root name) = true ↔ IsNested name := by
  rw [isRoot_iff]
  constructor
  · rintro ⟨segments, fit, same⟩
    have nonempty : segments ≠ [] := by
      rintro rfl
      have sameLength := congrArg String.length same
      simp [root, directory] at sameLength
    exact ⟨segments, nonempty, fit, root_injective (same.trans (directory_eq_root nonempty))⟩
  · rintro ⟨segments, nonempty, fit, rfl⟩
    exact ⟨segments, fit, (directory_eq_root nonempty).symm⟩

theorem isNested_segment {segment : String} (fit : segment ≠ "" ∧ '/' ∉ segment.toList) :
    IsNested segment :=
  ⟨[segment], by simp, by simpa using fit, by simp⟩

theorem IsNested.append {outer inner : String} (outerNested : IsNested outer)
    (innerNested : IsNested inner) : IsNested (outer ++ "/" ++ inner) := by
  rcases outerNested with ⟨outerSegments, outerNonempty, outerFit, rfl⟩
  rcases innerNested with ⟨innerSegments, innerNonempty, innerFit, rfl⟩
  refine ⟨outerSegments ++ innerSegments, by simp [outerNonempty], ?_, ?_⟩
  · exact List.forall_mem_append.2 ⟨outerFit, innerFit⟩
  · rw [String.intercalate_append_of_ne_nil outerNonempty innerNonempty]

/-- A slash in joined segments stands between two of them. -/
theorem isNested_of_intercalate_eq {segments : List String} {outer inner : String}
    (fit : ∀ segment ∈ segments, segment ≠ "" ∧ '/' ∉ segment.toList)
    (same : "/".intercalate segments = outer ++ "/" ++ inner) :
    IsNested outer ∧ IsNested inner := by
  induction segments generalizing outer with
  | nil =>
      have sameChars := congrArg String.toList same
      simp at sameChars
  | cons segment rest ih =>
      rcases List.forall_mem_cons.1 fit with ⟨here, later⟩
      cases rest with
      | nil =>
          rw [String.intercalate_singleton] at same
          exact absurd (by simp [same]) here.2
      | cons next more =>
          rw [String.intercalate_cons_cons] at same
          have inside : Within segment (root outer ++ inner) :=
            ⟨"/".intercalate (next :: more), by
              simp only [root, String.append_assoc] at same ⊢
              rw [same]⟩
          rcases inside.eq_or_extends here.2 with rfl | ⟨deeper, rfl⟩
          · have inner_eq := (String.append_right_inj _).1 same
            exact ⟨isNested_segment here, next :: more, by simp, later, inner_eq.symm⟩
          · have deeperSame : "/".intercalate (next :: more) = deeper ++ "/" ++ inner := by
              apply (String.append_right_inj (segment ++ "/")).1
              simpa only [String.append_assoc] using same
            rcases ih later deeperSame with ⟨deeperNested, innerNested⟩
            exact ⟨(isNested_segment here).append deeperNested, innerNested⟩

/-- A name with a slash in it is nested when the names on both sides are. -/
theorem isNested_append_iff {outer inner : String} :
    IsNested (outer ++ "/" ++ inner) ↔ IsNested outer ∧ IsNested inner := by
  constructor
  · rintro ⟨segments, _, fit, same⟩
    exact isNested_of_intercalate_eq fit same.symm
  · rintro ⟨outerNested, innerNested⟩
    exact outerNested.append innerNested

end LocaleSite.Route
