import LocaleSite.Definition

/-!
# Finding the definition of a site

Without a path the definition is looked for from the current directory upwards. The directories on
the way are the prefixes of the current one, each below those that come after it, so what is found
first is nearest.
-/

namespace LocaleSite

namespace DirectoryPath

theorem mem_upwards_iff {names : List String} {directory : DirectoryPath} :
    directory ∈ upwards names ↔ directory <+: names.reverse := by
  induction names with
  | nil => simp [upwards]
  | cons name above ih =>
      rw [upwards, List.mem_cons, ih, List.reverse_cons, List.prefix_concat_iff]

/-- Going upwards, each directory lies in all that come after it. -/
theorem pairwise_upwards (names : List String) :
    (upwards names).Pairwise fun nearer farther => farther <+: nearer ∧ farther ≠ nearer := by
  induction names with
  | nil => simp [upwards]
  | cons name above ih =>
      rw [upwards, List.pairwise_cons]
      refine ⟨?_, ih⟩
      intro farther farther_mem
      have isAbove := mem_upwards_iff.1 farther_mem
      rw [List.reverse_cons]
      refine ⟨isAbove.trans (List.prefix_append _ _), ?_⟩
      rintro rfl
      exact absurd isAbove.length_le (by simp)

theorem mem_ancestors_iff {directory ancestor : DirectoryPath} :
    ancestor ∈ directory.ancestors ↔ ancestor <+: directory := by
  rw [ancestors, mem_upwards_iff, List.reverse_reverse]

theorem pairwise_ancestors (directory : DirectoryPath) :
    directory.ancestors.Pairwise fun nearer farther => farther <+: nearer ∧ farther ≠ nearer :=
  pairwise_upwards _

end DirectoryPath

namespace SiteDefinition

/-- Where the definition of a site is: at the given path, or without one in the nearest directory
that has a file for it, or nowhere if none has. -/
inductive Locates (world : World) : Option String → Option (String × FileEntry) → Prop where
  | given {path : String} {entry : FileEntry} (here : world.entry? path = some entry) :
      Locates world (some path) (some (path, entry))
  | nearest {directory : DirectoryPath} {entry : FileEntry}
      (above : directory <+: world.directory)
      (here : world.entry? (directory.file fileName) = some entry)
      (nearer : ∀ other : DirectoryPath, directory <+: other → other ≠ directory →
        other <+: world.directory → world.entry? (other.file fileName) = none) :
      Locates world none (some (directory.file fileName, entry))
  | nowhere (absent : ∀ directory : DirectoryPath, directory <+: world.directory →
        world.entry? (directory.file fileName) = none) :
      Locates world none none

variable {world : World}

theorem discover_eq_none_iff :
    discover world = none ↔
      ∀ directory : DirectoryPath, directory <+: world.directory →
        world.entry? (directory.file fileName) = none := by
  simp only [discover, List.findSome?_eq_none_iff, DirectoryPath.mem_ancestors_iff,
    Option.map_eq_none_iff]

theorem discover_eq_some_iff {found : String × FileEntry} :
    discover world = some found ↔ Locates world none (some found) := by
  have ordered := DirectoryPath.pairwise_ancestors world.directory
  rw [discover, List.findSome?_eq_some_iff]
  constructor
  · rintro ⟨before, directory, after, split, found_eq, absent⟩
    rcases Option.map_eq_some_iff.1 found_eq with ⟨entry, here, rfl⟩
    rw [split, List.pairwise_append, List.pairwise_cons] at ordered
    have above : directory <+: world.directory := by
      apply DirectoryPath.mem_ancestors_iff.1
      simp [split]
    refine .nearest above here ?_
    intro other inside different otherAbove
    rw [← DirectoryPath.mem_ancestors_iff, split, List.mem_append, List.mem_cons] at otherAbove
    -- Of the directories on the way, those before this one are below it and those after above it.
    rcases otherAbove with nearer | rfl | farther
    · simpa using absent other nearer
    · exact absurd rfl different
    · have outside := ordered.2.1.1 other farther
      exact absurd (outside.1.eq_of_length_le inside.length_le) outside.2
  · intro located
    cases located with
    | @nearest directory entry above here nearer =>
        rcases List.append_of_mem (DirectoryPath.mem_ancestors_iff.2 above) with
          ⟨before, after, split⟩
        rw [split, List.pairwise_append] at ordered
        refine ⟨before, directory, after, split, by rw [here, Option.map_some], ?_⟩
        intro other other_mem
        have inside := ordered.2.2 other other_mem directory List.mem_cons_self
        have otherAbove : other <+: world.directory := by
          apply DirectoryPath.mem_ancestors_iff.1
          simp [split, other_mem]
        have absent := nearer other inside.1 inside.2.symm otherAbove
        rw [absent, Option.map_none]

theorem source?_eq_ok_iff {config : Option String} {source : Option (String × FileEntry)} :
    source? world config = .ok source ↔ Locates world config source := by
  cases config with
  | some path =>
      rw [source?]
      cases here : world.entry? path with
      | none =>
          simp only [reduceCtorEq, false_iff]
          intro located
          cases located with
          | given found => simp [here] at found
      | some entry =>
          simp only [Except.ok.injEq]
          constructor
          · rintro rfl
            exact .given here
          · intro located
            cases located with
            | given found =>
                rw [here, Option.some.injEq] at found
                rw [found]
  | none =>
      rw [source?, Except.ok.injEq]
      cases source with
      | some found => exact discover_eq_some_iff
      | none =>
          rw [discover_eq_none_iff]
          constructor
          · exact .nowhere
          · intro located
            cases located with
            | nowhere absent => exact absent

theorem source?_eq_error_iff {config : Option String} {error : ConfigError} :
    source? world config = .error error ↔
      ∃ path, config = some path ∧ world.entry? path = none ∧ error = .notFound path := by
  cases config with
  | none => simp [source?]
  | some path => cases here : world.entry? path <;> simp [source?, here, eq_comm]

end SiteDefinition

end LocaleSite
