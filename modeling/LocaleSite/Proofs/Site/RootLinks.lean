import LocaleSite.Proofs.Site.Namespaces
import Mathlib.Data.List.TakeWhile

/-!
# Links of the root locale

The check of the root locale's paths looks for the directory of another locale together with the
slash that closes it. A link whose first segment is the id of another locale therefore passes just
when the path ends with that segment, or a query or a fragment begins right after it: such a link
leads to the home page of the other locale.
-/

namespace LocaleSite

namespace Route

def endsSegment (c : Char) : Bool := c == '/' || c == '?' || c == '#'

/-- What stands between the slash at the front of a path and the next slash, the query, the
fragment or the end. -/
def firstSegment? (path : String) : Option String :=
  match path.toList with
  | '/' :: rest => some (String.ofList (rest.takeWhile fun c => !endsSegment c))
  | _ => none

/-- A directory without its closing slash, with or without a query or a fragment. -/
inductive IsHome (name : String) : String → Prop where
  | plain : IsHome name ("/" ++ name)
  | query (rest : String) : IsHome name ("/" ++ name ++ "?" ++ rest)
  | fragment (rest : String) : IsHome name ("/" ++ name ++ "#" ++ rest)

theorem firstSegment?_eq_some {path name : String} (tail : List Char)
    (split : path.toList = '/' :: (name.toList ++ tail))
    (free : ∀ c ∈ name.toList, endsSegment c = false)
    (stops : tail.takeWhile (fun c => !endsSegment c) = []) : firstSegment? path = some name := by
  have whole : (name.toList ++ tail).takeWhile (fun c => !endsSegment c) = name.toList := by
    rw [List.takeWhile_append_of_pos, stops, List.append_nil]
    intro c c_mem
    simp [free c c_mem]
  simp [firstSegment?, split, whole]

/-- A first segment is what the path begins with, and what follows it ends it. -/
theorem split_of_firstSegment? {path name : String} (first : firstSegment? path = some name) :
    (∀ c ∈ name.toList, endsSegment c = false) ∧
      ∃ tail : List Char, path.toList = '/' :: (name.toList ++ tail) ∧
        ∀ c, tail.head? = some c → endsSegment c = true := by
  unfold firstSegment? at first
  split at first
  · rename_i rest chars
    have taken : name.toList = rest.takeWhile fun c => !endsSegment c := by
      rw [← Option.some.inj first, String.toList_ofList]
    constructor
    · intro c c_mem
      rw [taken] at c_mem
      simpa using List.mem_takeWhile_imp c_mem
    · refine ⟨rest.dropWhile fun c => !endsSegment c, ?_, ?_⟩
      · rw [chars, taken, List.takeWhile_append_dropWhile]
      · intro c head
        have stops := List.head?_dropWhile_not (fun c => !endsSegment c) rest
        rw [head] at stops
        simpa using stops
  · cases first

/-- A path with a first segment lies in the directory of that name or is its home page. -/
theorem firstSegment?_eq_some_iff {path name : String} :
    firstSegment? path = some name ↔
      (∀ c ∈ name.toList, endsSegment c = false) ∧ (Within name path ∨ IsHome name path) := by
  constructor
  · intro first
    rcases split_of_firstSegment? first with ⟨free, tail, split, ends⟩
    refine ⟨free, ?_⟩
    cases tail with
    | nil =>
        have whole : path = "/" ++ name := String.toList_injective (by simp [split])
        exact .inr (whole ▸ .plain)
    | cons c more =>
        have parted : path = "/" ++ name ++ String.singleton c ++ String.ofList more :=
          String.toList_injective (by simp [split])
        have ender := ends c rfl
        simp only [endsSegment, Bool.or_eq_true, beq_iff_eq] at ender
        rcases ender with (rfl | rfl) | rfl
        · exact .inl ⟨String.ofList more, parted⟩
        · exact .inr (parted ▸ .query (String.ofList more))
        · exact .inr (parted ▸ .fragment (String.ofList more))
  · rintro ⟨free, ⟨rest, rfl⟩ | home⟩
    · apply firstSegment?_eq_some ('/' :: rest.toList) (by simp) free
      simp [endsSegment]
    · cases home with
      | plain => exact firstSegment?_eq_some [] (by simp) free rfl
      | query rest =>
          apply firstSegment?_eq_some ('?' :: rest.toList) (by simp) free
          simp [endsSegment]
      | fragment rest =>
          apply firstSegment?_eq_some ('#' :: rest.toList) (by simp) free
          simp [endsSegment]

end Route

namespace Site

/-- A link of the root locale of a composed site has the key of another locale as its first
segment just when it leads to that locale's home page. A key with the mark of a query or of a
fragment is no segment of any path. -/
theorem firstSegment?_iff_of_compose {isPattern : String → Bool} {base : BaseConfig}
    {blocks : List LocaleBlock} {site : Site} (composed : compose isPattern base blocks = .ok site)
    {root locale : LocaleBlock} {key link : String} (rootHere : site.root? = some root)
    (here : site.locale? key = some locale) (notRoot : key ≠ LocaleBlock.rootKey)
    (uses : root.Uses .navLink link) :
    Route.firstSegment? link = some key ↔
      Route.IsHome key link ∧ '?' ∉ key.toList ∧ '#' ∉ key.toList := by
  have wellFormed := wellFormed_of_compose composed
  have outside : ¬Route.Within key link := wellFormed.foreignFree rootHere here notRoot uses
  have slashFree := wellFormed.slashFree here
  have free : (∀ c ∈ key.toList, Route.endsSegment c = false) ↔
      '?' ∉ key.toList ∧ '#' ∉ key.toList := by
    constructor
    · intro none
      constructor
      · intro mark
        simpa [Route.endsSegment] using none _ mark
      · intro mark
        simpa [Route.endsSegment] using none _ mark
    · rintro ⟨noQuery, noFragment⟩ c c_mem
      have notSlash : c ≠ '/' := fun same => slashFree (same ▸ c_mem)
      have notQuery : c ≠ '?' := fun same => noQuery (same ▸ c_mem)
      have notFragment : c ≠ '#' := fun same => noFragment (same ▸ c_mem)
      simp [Route.endsSegment, notSlash, notQuery, notFragment]
  rw [Route.firstSegment?_eq_some_iff, free, and_comm]
  simp [outside]

/-- A root locale with links to the home page of another locale in all three forms. -/
def homeLinkBlocks : List LocaleBlock :=
  [{ LocaleBlock.guide "en" true "" [⟨"Start", "start"⟩] ⟨by decide, by decide⟩ with
      nav := ⟨[.leaf "Chinese" "/zh" none,
        .group "More" [.leaf "News" "/zh?from=en" none, .leaf "Top" "/zh#top" none] none]⟩ },
    .guide "zh" false "/zh" [⟨"News", "news"⟩] ⟨by decide, by decide⟩]

theorem compose_homeLinkBlocks :
    compose (fun _ => true) guideBase homeLinkBlocks = .ok (publish guideBase homeLinkBlocks) := rfl

theorem firstSegment?_of_homeLinks :
    ∃ site root locale, compose (fun _ => true) guideBase homeLinkBlocks = .ok site ∧
      site.root? = some root ∧ site.locale? "zh" = some locale ∧ "zh" ≠ LocaleBlock.rootKey ∧
      root.Uses .navLink "/zh?from=en" ∧
      (Route.firstSegment? "/zh?from=en" = some "zh" ↔
        Route.IsHome "zh" "/zh?from=en" ∧ '?' ∉ "zh".toList ∧ '#' ∉ "zh".toList) := by
  have here : (publish guideBase homeLinkBlocks).locale? "zh" = some _ := rfl
  have linked : ∃ root, (publish guideBase homeLinkBlocks).root? = some root ∧
      root.Uses .navLink "/zh?from=en" := ⟨_, rfl, ⟨[1, 0], _, _, rfl⟩, by decide⟩
  rcases linked with ⟨root, rootHere, uses⟩
  exact ⟨_, root, _, compose_homeLinkBlocks, rootHere, here, by decide, uses,
    firstSegment?_iff_of_compose compose_homeLinkBlocks rootHere here (by decide) uses⟩

/-- Links of the root locale may have the id of another locale as their first segment. -/
theorem rootLinks_have_foreign_firstSegment :
    ∃ site root locale, compose (fun _ => true) guideBase homeLinkBlocks = .ok site ∧
      site.root? = some root ∧ site.locale? "zh" = some locale ∧ "zh" ≠ LocaleBlock.rootKey ∧
      ∀ link ∈ ["/zh", "/zh?from=en", "/zh#top"],
        root.Uses .navLink link ∧ Route.firstSegment? link = some "zh" := by
  refine ⟨_, _, _, compose_homeLinkBlocks, rfl, rfl, by decide, ?_⟩
  simp only [List.forall_mem_cons, List.not_mem_nil, false_imp_iff, implies_true, and_true]
  exact ⟨⟨⟨⟨[0], _, _, rfl⟩, by decide⟩, by decide⟩, ⟨⟨⟨[1, 0], _, _, rfl⟩, by decide⟩, by decide⟩,
    ⟨⟨[1, 1], _, _, rfl⟩, by decide⟩, by decide⟩

end Site

end LocaleSite
