import Skirmish.Combat.Evaluation
import Skirmish.Proofs.Runs

/-!
# The stats that actions write

Modifiers adjust only stats that are stat keys.  Every action writes one, but for an
action that grants a keyword under a name that no grant may have.  An action is broken if it
is such a one, or if its value has too many digits to be told; one that grants an ability is
never broken.
-/

namespace Skirmish

theorem isStatKey_of_mem_plainStats {stat : String} (plain : stat ∈ plainStats) :
    isStatKey stat = true := by
  simp [isStatKey, plain]

theorem isStatKey_of_mem_rerollStats {stat : String} (reroll : stat ∈ rerollStats) :
    isStatKey stat = true := by
  simp only [isStatKey, Bool.or_eq_true, List.any_eq_true]
  exact .inr ⟨stat, reroll, by simp⟩

theorem isStatKey_of_isGrantName {start name : String} (grants : start ∈ grantBeginnings)
    (named : isGrantName name.toList = true) : isStatKey (start ++ name) = true := by
  simp only [isStatKey, Bool.or_eq_true, List.any_eq_true]
  refine .inl (.inr ⟨start, grants, ?_⟩)
  rw [String.toList_append, List.drop_left' String.length_toList, named, Bool.and_true,
    List.isPrefixOf_iff_prefix]
  exact List.prefix_append _ _

/-- A grant begins as every other grant of its sort does. -/
theorem take_grant {start : String} (grants : start ∈ grantBeginnings) (name : String) :
    (start ++ name).toList.take 2 = start.toList.take 2 := by
  have long : ∀ start ∈ grantBeginnings, 2 ≤ start.toList.length := by decide
  rw [String.toList_append, List.take_append_of_le_length (long start grants)]

/-- No other sort of stat begins as a grant of a keyword does. -/
theorem isStatKey_keyword (name : String) :
    isStatKey ("keyword:" ++ name) = isGrantName name.toList := by
  rw [Bool.eq_iff_iff]
  refine ⟨fun valid => ?_, isStatKey_of_isGrantName (by decide)⟩
  have chars : ("keyword:" ++ name).toList = "keyword:".toList ++ name.toList :=
    String.toList_append
  have first : ("keyword:" ++ name).toList.head? = some 'k' := by
    rw [chars]
    rfl
  simp only [isStatKey, Bool.or_eq_true, List.contains_iff_mem, List.any_eq_true,
    Bool.and_eq_true, beq_iff_eq] at valid
  rcases valid with (plain | ⟨start, member, shared, named⟩) | ⟨key, member, same⟩
  · have heads : ∀ stat ∈ plainStats, stat.toList.head? ≠ some 'k' := by decide
    exact (heads _ plain first).elim
  · rw [chars] at shared named
    simp only [grantBeginnings, List.mem_cons, List.not_mem_nil, or_false] at member
    rcases member with rfl | rfl | rfl
    · rwa [List.drop_left' String.length_toList] at named
    · cases shared
    · cases shared
  · have heads : ∀ key ∈ rerollStats,
        key.toList.head? ≠ some 'k' ∧ (key ++ "\n").toList.head? ≠ some 'k' := by decide
    rcases same with rfl | same
    · exact ((heads _ member).1 first).elim
    · exact ((heads _ member).2 (same ▸ first)).elim

/-! ## Actions -/

/-- The action grants a keyword under a name that no grant may have. -/
def Action.isMisnamed : Action → Bool
  | .addKeyword keyword _ => !isGrantName keyword.toList
  | _ => false

theorem WeaponAbility.isGrantName_key (ability : WeaponAbility) :
    isGrantName ability.key.toList = true := by
  have kinds : ∀ kind ∈ ["rapidFire", "sustainedHits", "anti", "melta"],
      isGrantName kind.toList = true := by decide
  cases ability with
  | flag flag => cases flag <;> decide
  | _ => exact kinds _ (by simp [key, kind])

theorem UnitAbility.isGrantName_key (ability : UnitAbility) :
    isGrantName ability.key.toList = true := by
  have kinds : ∀ kind ∈ ["deadlyDemise", "feelNoPain", "scouts"],
      isGrantName kind.toList = true := by decide
  cases ability with
  | flag flag => cases flag <;> decide
  | _ => exact kinds _ (by simp [key, kind])

theorem Action.isStatKey_entry (action : Action) :
    isStatKey action.entry.stat = !action.isMisnamed := by
  cases action with
  | modWeaponStat stat add =>
      refine isStatKey_of_mem_plainStats ?_
      cases stat <;> simp [entry, plainStats, Vocabulary.word]
  | modDefensiveStat stat add =>
      refine isStatKey_of_mem_plainStats ?_
      cases stat <;> simp [entry, plainStats, Vocabulary.word]
  | setDefensiveStat stat n =>
      refine isStatKey_of_mem_plainStats ?_
      cases stat <;> simp [entry, plainStats, Vocabulary.word]
  | addWeaponAbility ability =>
      exact isStatKey_of_isGrantName (by decide) ability.isGrantName_key
  | addUnitAbility ability =>
      exact isStatKey_of_isGrantName (by decide) ability.isGrantName_key
  | addKeyword keyword value => simp [entry, isMisnamed, isStatKey_keyword]
  | reroll phase kind =>
      exact isStatKey_of_mem_rerollStats (by cases phase <;> cases kind <;> decide)
  | _ => exact isStatKey_of_mem_plainStats (by simp [entry, plainStats])

/-- The value that the action writes has more digits than a numeral may have. -/
def Action.isOversized (action : Action) : Bool :=
  Text.exceedsNumerals action.entry.value.natAbs

/-- The action cannot be written to its end: its stat is no stat key, or its value cannot
be told. -/
def Action.isBroken (action : Action) : Bool :=
  action.isMisnamed || action.isOversized

theorem Action.isOversized_eq_false_iff {action : Action} :
    action.isOversized = false ↔ action.entry.value.natAbs < Text.numeralBound := by
  simp [isOversized, Text.exceedsNumerals]

/-- Actions that grant an ability write a one. -/
theorem Action.isBroken_eq_false_of_granted {action : Action} {ability : Ability}
    (grants : action.granted? = some ability) : action.isBroken = false := by
  have one : action.entry.value = 1 := by cases action <;> cases grants <;> rfl
  have named : action.isMisnamed = false := by cases action <;> cases grants <;> rfl
  have small : action.isOversized = false := by
    rw [isOversized_eq_false_iff, one]
    exact lt_numeralBound (by decide)
  rw [isBroken, named, small, Bool.or_false]

theorem Action.granted?_of_isOversized {action : Action}
    (oversized : action.isOversized = true) : action.granted? = none := by
  cases granted : action.granted? with
  | none => rfl
  | some ability =>
      have broken := isBroken_eq_false_of_granted granted
      rw [isBroken, oversized, Bool.or_true] at broken
      cases broken

theorem Action.operation_of_reroll {action : Action}
    (reroll : "reroll:".toList.isPrefixOf action.entry.stat.toList = true) :
    action.entry.operation = .set := by
  have plain : ∀ stat ∈ plainStats, "reroll:".toList.isPrefixOf stat.toList = false := by
    decide
  cases action with
  | modWeaponStat stat add =>
      rw [plain _ (by cases stat <;> simp [entry, plainStats, Vocabulary.word])] at reroll
      cases reroll
  | modDefensiveStat stat add =>
      rw [plain _ (by cases stat <;> simp [entry, plainStats, Vocabulary.word])] at reroll
      cases reroll
  | modHit add | modHitAgainst add | modWound add | modWoundAgainst add | modMove add =>
      rw [plain _ (by simp [entry, plainStats])] at reroll
      cases reroll
  | _ => rfl

/-- The modifier of an action is a valid one unless the action is misnamed. -/
theorem Action.problem?_modifier (action : Action) (source : String) :
    (action.modifier source).problem? = none ↔ action.isMisnamed = false := by
  have valid := action.isStatKey_entry
  unfold Modifier.problem? Modifier.complaints
  dsimp only [modifier]
  cases misnamed : action.isMisnamed with
  | true =>
      rw [misnamed] at valid
      simp [valid]
  | false =>
      rw [misnamed] at valid
      have quiet : ("reroll:".toList.isPrefixOf action.entry.stat.toList &&
          action.entry.operation != .set) = false := by
        rw [Bool.and_eq_false_imp]
        intro reroll
        rw [operation_of_reroll reroll]
        rfl
      simp only [valid, quiet, Bool.not_false, Bool.false_eq_true, if_true, if_false,
        List.append_nil]

end Skirmish
