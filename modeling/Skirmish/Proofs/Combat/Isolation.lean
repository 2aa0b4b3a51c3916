import Skirmish.Proofs.Combat.Roles

/-!
# Armies and their states

The view of a role keeps the live states of the role's own army and no others.  So what a
side's rules come to, and the numbers that follow from them, depend on the states of its own
army only: those of other armies may be added, changed or removed.
-/

namespace Skirmish

/-! ## States of an army -/

/-- The lists have the same states of an army, in the same order. -/
def ArmyState.AgreeOn (armyId : String) (states others : List ArmyState) : Prop :=
  states.filter (·.armyId == armyId) = others.filter (·.armyId == armyId)

/-- The lists have the same states of all other armies, in the same order. -/
def ArmyState.AgreeOutside (armyId : String) (states others : List ArmyState) : Prop :=
  states.filter (·.armyId != armyId) = others.filter (·.armyId != armyId)

namespace ArmyState

variable {armyId otherId : String} {states others : List ArmyState}

theorem AgreeOutside.agreeOn (agree : AgreeOutside otherId states others)
    (different : armyId ≠ otherId) : AgreeOn armyId states others := by
  have narrowed (states : List ArmyState) :
      (states.filter (·.armyId != otherId)).filter (·.armyId == armyId) =
        states.filter (·.armyId == armyId) := by
    rw [List.filter_filter]
    refine List.filter_congr fun state _ => ?_
    by_cases own : state.armyId = armyId
    · simp [own, different]
    · simp [own]
  unfold AgreeOn
  rw [← narrowed states, ← narrowed others, agree]

theorem AgreeOn.forArmy_eq (agree : AgreeOn armyId states others) (turn : Option Int)
    (phase : Option String) :
    forArmy states armyId turn phase = forArmy others armyId turn phase := by
  unfold AgreeOn at agree
  unfold forArmy
  rw [agree]

end ArmyState

/-! ## Views -/

/-- The encounter with other army states. -/
def Encounter.withStates (encounter : Encounter) (states : List ArmyState) : Encounter :=
  { encounter with armyStates := states }

variable {encounter : Encounter} {states others : List ArmyState}

/-- A view sees nothing but the states of its own army. -/
theorem Encounter.view_withStates_eq {role : Role}
    (agree : ArmyState.AgreeOn (encounter.unitOf role).armyId states others) :
    (encounter.withStates states).view role = (encounter.withStates others).view role := by
  have live := agree.forArmy_eq (some encounter.game.currentTurn)
    (some (Vocabulary.word encounter.game.currentPhase))
  have same : ((encounter.withStates states).view role).armyStates =
      ((encounter.withStates others).view role).armyStates := by
    cases role <;> exact live
  unfold Encounter.view at same ⊢
  rw [View.mk.injEq]
  exact ⟨rfl, rfl, rfl, rfl, rfl, rfl, same⟩

/-! ## Sides and numbers -/

theorem Merged.of_withStates {attacker defender : Board} {view : View}
    {numbers : CombatNumbers}
    (merged : Merged (encounter.withStates states) attacker defender view numbers) :
    Merged encounter attacker defender view numbers := by
  obtain ⟨⟩ := merged
  constructor <;> assumption

/-- The sides have the same resolutions, the same ledger and the same granted abilities. -/
structure Side.Matches (side other : Side) : Prop where
  resolutions : side.resolutions = other.resolutions
  ledger : side.board.ledger = other.board.ledger
  granted : side.board.granted = other.board.granted

theorem Side.Evaluates.matches {side other : Side} {view : View} {rules : List Rule}
    (evaluates : side.Evaluates view rules) (again : other.Evaluates view rules) :
    side.Matches other := by
  obtain ⟨resolutions, trace, eq⟩ := evaluates.unique again
  exact ⟨resolutions, (congrArg Board.ledger eq).symm, (congrArg Board.granted eq).symm⟩

/-- The combats are the same for a role: its rules came to the same, and its numbers are
the same. -/
def PreparedCombat.SameFor (combat other : PreparedCombat) : Role → Prop
  | .attacker =>
    combat.attacker.Matches other.attacker ∧ combat.numbers.SameAttack other.numbers
  | .defender =>
    combat.defender.Matches other.defender ∧ combat.numbers.SameDefence other.numbers

/-- The other one of the two roles. -/
def Role.opponent : Role → Role
  | .attacker => .defender
  | .defender => .attacker

variable {attackerRules defenderRules : List Rule} {trace traceOther : Trace}
  {combat other : PreparedCombat}

/-- A combat is the same for a role as long as the role's own army has the same states. -/
theorem sameFor_of_agreeOn {role : Role}
    (prepared : (prepare (encounter.withStates states) attackerRules defenderRules trace).1 =
      .ok combat)
    (preparedOther :
      (prepare (encounter.withStates others) attackerRules defenderRules traceOther).1 =
        .ok other)
    (agree : ArmyState.AgreeOn (encounter.unitOf role).armyId states others) :
    combat.SameFor other role := by
  have merged := (Merged.of_mergeNumbers (merged_of_prepare prepared)).of_withStates
  have mergedOther := (Merged.of_mergeNumbers (merged_of_prepare preparedOther)).of_withStates
  obtain ⟨attacks, defends⟩ := evaluates_of_prepare prepared
  obtain ⟨attacksOther, defendsOther⟩ := evaluates_of_prepare preparedOther
  have views := Encounter.view_withStates_eq agree
  cases role with
  | attacker =>
      rw [views] at merged attacks
      exact ⟨attacks.matches attacksOther,
        merged.sameAttack mergedOther (attacks.unique attacksOther).2⟩
  | defender =>
      rw [views] at defends
      exact ⟨defends.matches defendsOther,
        merged.sameDefence mergedOther (defends.unique defendsOther).2⟩

/-- Nothing that concerns a role changes as long as its own army has the same states.  So
when the units belong to different armies, the states of one army do not concern the role
of the other one. -/
theorem prepare_isolates_armies
    (prepared : (prepare (encounter.withStates states) attackerRules defenderRules trace).1 =
      .ok combat)
    (preparedOther :
      (prepare (encounter.withStates others) attackerRules defenderRules traceOther).1 =
        .ok other) :
    (∀ role, ArmyState.AgreeOn (encounter.unitOf role).armyId states others →
      combat.SameFor other role) ∧
    (encounter.attacker.armyId ≠ encounter.defender.armyId → ∀ role,
      ArmyState.AgreeOutside (encounter.unitOf role.opponent).armyId states others →
        (encounter.withStates states).view role = (encounter.withStates others).view role ∧
          combat.SameFor other role) := by
  refine ⟨fun role agree => sameFor_of_agreeOn prepared preparedOther agree,
    fun different role outside => ?_⟩
  have foreign : (encounter.unitOf role).armyId ≠ (encounter.unitOf role.opponent).armyId := by
    cases role
    · exact different
    · exact different.symm
  have agree := outside.agreeOn foreign
  exact ⟨Encounter.view_withStates_eq agree, sameFor_of_agreeOn prepared preparedOther agree⟩

/-- An oath of the wolves is live. -/
def oath : ArmyState where
  id := "first"
  armyId := "wolves"
  state := "oath"

/-- A charge of the orks is live. -/
def greenTide : ArmyState where
  id := "second"
  armyId := "orks"
  state := "tide"

/-- A rule for the attack that asks for an oath. -/
def swornStrength : List Rule :=
  [Rule.passiveRule "sworn" (.armyState ["oath"]) (.modWeaponStat .strength 1)]

/-- A rule for the defence that asks for a charge. -/
def tideToughness : List Rule :=
  [Rule.passiveRule "tough" (.armyState ["tide"]) (.modDefensiveStat .toughness 2)]

/-- A charge of the orks makes them tougher, and the attack of the wolves stays as it is. -/
theorem greenTide_leaves_attack :
    cavalryCharge.attacker.armyId ≠ cavalryCharge.defender.armyId ∧
    ArmyState.AgreeOutside "orks" [oath] [oath, greenTide] ∧
    ∃ before after : PreparedCombat,
      (prepare (cavalryCharge.withStates [oath]) swornStrength tideToughness none).1 =
        .ok before ∧
      (prepare (cavalryCharge.withStates [oath, greenTide]) swornStrength tideToughness
        none).1 = .ok after ∧
      (before.numbers.strength, before.numbers.toughness) = (5, 4) ∧
      (after.numbers.strength, after.numbers.toughness) = (5, 6) ∧
      before.SameFor after .attacker := by
  have different : cavalryCharge.attacker.armyId ≠ cavalryCharge.defender.armyId := by decide
  have outside : ArmyState.AgreeOutside "orks" [oath] [oath, greenTide] := by
    unfold ArmyState.AgreeOutside
    decide
  have ran : (prepare (cavalryCharge.withStates [oath]) swornStrength tideToughness
      none).1.toOption.map
        (fun combat => (combat.numbers.strength, combat.numbers.toughness)) = some (5, 4) := by
    decide +kernel
  have ranAfter : (prepare (cavalryCharge.withStates [oath, greenTide]) swornStrength
      tideToughness none).1.toOption.map
        (fun combat => (combat.numbers.strength, combat.numbers.toughness)) = some (5, 6) := by
    decide +kernel
  obtain ⟨before, prepared, shown⟩ := exists_ok_of_shown ran
  obtain ⟨after, preparedAfter, shownAfter⟩ := exists_ok_of_shown ranAfter
  obtain ⟨-, isolated⟩ := prepare_isolates_armies prepared preparedAfter
  exact ⟨different, outside, before, after, prepared, preparedAfter, shown, shownAfter,
    (isolated different .attacker outside).2⟩

end Skirmish
