import LocaleSite.Command.Arguments
import LocaleSite.Proofs.Outcome

/-!
# Options that both commands have

The words that `check` understands, `compose` understands alike, after `--compact` or without it.
Words are read one after the other into the options given so far, so the step from one command to
the other is a step to options before which `compact` may stand.
-/

namespace LocaleSite.Command

variable {extra given result : Given} {name : OptionName} {value : String}

/-- Options that both commands have. -/
def Common (given : Given) : Prop := ∀ entry ∈ given, entry.1 ≠ .compact

/-- Nothing but the option that one command has alone. -/
def OnlyCompact (extra : Given) : Prop := ∀ entry ∈ extra, entry.1 = .compact

theorem OnlyCompact.lookup_append (onlyCompact : OnlyCompact extra) (common : name ≠ .compact)
    (given : Given) : (extra ++ given).lookup name = given.lookup name := by
  have absent : extra.lookup name = none := by
    rw [List.lookup_eq_none_iff]
    intro entry entry_mem
    simpa [onlyCompact entry entry_mem] using common
  rw [List.lookup_append, absent, Option.none_or]

theorem give_eq_ok_iff :
    give given name value = .ok result ↔
      given.lookup name = none ∧ result = given ++ [(name, value)] := by
  unfold give
  cases given.lookup name <;> simp [eq_comm]

theorem Common.give (common : Common given) (isCommon : name ≠ .compact)
    (given_ok : give given name value = .ok result) : Common result := by
  rw [(give_eq_ok_iff.1 given_ok).2]
  exact List.forall_mem_append.2 ⟨common, by simpa using isCommon⟩

theorem OnlyCompact.give (onlyCompact : OnlyCompact extra) (isCommon : name ≠ .compact)
    (given_ok : give given name value = .ok result) :
    Command.give (extra ++ given) name value = .ok (extra ++ result) := by
  rcases give_eq_ok_iff.1 given_ok with ⟨fresh, rfl⟩
  rw [give_eq_ok_iff, onlyCompact.lookup_append isCommon, List.append_assoc]
  exact ⟨fresh, rfl⟩

/-! ## One word -/

namespace WordResult

def after (extra : Given) : WordResult → WordResult
  | .done given => .done (extra ++ given)
  | .awaits given name => .awaits (extra ++ given) name

end WordResult

end LocaleSite.Command
