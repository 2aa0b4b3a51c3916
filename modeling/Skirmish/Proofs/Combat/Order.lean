import Skirmish.Proofs.Combat.Attack
import Skirmish.Proofs.Combat.Blind
import Skirmish.Proofs.Combat.Growth
import Skirmish.Proofs.Combat.Numbers
import Skirmish.Proofs.Combat.Totals

/-!
# The order of rules

Blind rules write the same in every order, so the boards that they leave hold the same,
each stat in some order of its entries.  The order does not show in a number that is a sum
of integers, in the broadest reroll, or in the merged keywords.  It does show where the last
entry replaces all others: in the thresholds of critical rolls and in the numbers of the
defence.
-/

namespace Skirmish

variable {encounter : Encounter} {view : View}

/-! ## Boards -/

/-- The boards hold the same in different orders. -/
structure Board.Rearranged (board other : Board) : Prop where
  within : board.Within other
  back : other.Within board

theorem Board.Gains.within_of_perm {board final finalOther : Board} {deeds others : List Deed}
    (gains : board.Gains deeds final) (gainsOther : board.Gains others finalOther)
    (perm : deeds.Perm others) : final.Within finalOther := by
  constructor
  · rw [gains.ledger, gainsOther.ledger]
    exact Ledger.Within.addAll_of_perm (perm.map Deed.modifier) board.ledger
  · rw [gains.granted, gainsOther.granted]
    exact ((perm.flatMap_right _).append_left board.granted).subset

namespace Board.Rearranged

variable {board other : Board}

theorem total (rearranged : board.Rearranged other) (stat : String) :
    board.ledger.total stat = other.ledger.total stat :=
  Ledger.total_eq_of_within rearranged.within.ledger rearranged.back.ledger stat

theorem has (rearranged : board.Rearranged other) (stat : String) :
    board.ledger.has stat = other.ledger.has stat := by
  rw [Bool.eq_iff_iff]
  exact ⟨rearranged.within.ledger.has, rearranged.back.ledger.has⟩

theorem rerollKind? (rearranged : board.Rearranged other) (phase : String)
    (extra : List String) :
    Ledger.rerollKind? board.ledger phase extra =
      Ledger.rerollKind? other.ledger phase extra := by
  simp only [Ledger.rerollKind?, Option.map_some, Option.getD_some, rearranged.has]

theorem keywords (rearranged : board.Rearranged other) {keywords keywordsOther : Keywords}
    (merged : board.keywords view = .ok keywords)
    (mergedOther : other.keywords view = .ok keywordsOther) : keywords.Alike keywordsOther :=
  .of_within (rearranged.within.keywords merged mergedOther)
    (rearranged.back.keywords mergedOther merged)

end Board.Rearranged

/-! ## Stats that add up -/

/-- The stats that actions only ever add to. -/
def additiveStats : List String := ["hit", "wound", "S", "AP", "A", "D"]

/-- The ledger only adds to the additive stats. -/
def Ledger.IsAdditive (ledger : Ledger) : Prop :=
  ∀ stat ∈ additiveStats, ledger.AddsUp stat

theorem Action.operation_of_additive {action : Action}
    (additive : action.entry.stat ∈ additiveStats) : action.entry.operation = .add := by
  -- The stats of grants and rerolls begin like no additive stat.
  have begins := List.mem_map_of_mem (f := (·.toList.take 2)) additive
  cases action with
  | setDefensiveStat stat n =>
      cases stat <;> simp [entry, additiveStats, Vocabulary.word] at additive
  | setInvulnerable | setFeelNoPain | setCriticalHit | setCriticalWound =>
      simp [entry, additiveStats] at additive
  | addWeaponAbility ability | addUnitAbility ability =>
      rw [entry, Ability.stat, take_grant (by decide)] at begins
      exact absurd begins (by decide)
  | addKeyword keyword value =>
      rw [entry, take_grant (by decide)] at begins
      exact absurd begins (by decide)
  | reroll phase kind =>
      exact absurd begins (by cases phase <;> cases kind <;> decide)
  | _ => rfl

theorem Deed.isBonus {deed : Deed} (additive : deed.modifier.stat ∈ additiveStats) :
    deed.modifier.IsBonus :=
  ⟨Action.operation_of_additive additive, rfl⟩

theorem Board.Gains.isAdditive {final : Board} {deeds : List Deed}
    (gains : ({} : Board).Gains deeds final) : final.ledger.IsAdditive := by
  intro stat additive entry member
  rw [gains.ledger] at member
  have gained := (Ledger.entriesFor_addAll_perm _ _ stat).mem_iff.mp member
  obtain ⟨written, own⟩ := List.mem_filter.mp gained
  obtain ⟨deed, -, rfl⟩ := List.mem_map.mp written
  exact deed.isBonus (beq_iff_eq.mp own ▸ additive)

/-! ## Sides -/

/-- Blind rules come to the same in every order, and write the same. -/
theorem Side.Evaluates.rearranged {side other : Side} {rules order : List Rule}
    (blind : ∀ rule ∈ rules, rule.isBlind = true) (perm : rules.Perm order)
    (evaluates : side.Evaluates view rules) (evaluatesOther : other.Evaluates view order) :
    (side.resolutions = rules.map (Rule.foreseen view) ∧
      other.resolutions = order.map (Rule.foreseen view)) ∧
    side.board.Rearranged other.board ∧
    side.board.ledger.IsAdditive ∧ other.board.ledger.IsAdditive := by
  obtain ⟨final, returns, retraced⟩ := evaluates
  obtain ⟨finalOther, returnsOther, retracedOther⟩ := evaluatesOther
  have blindOther : ∀ rule ∈ order, rule.isBlind = true :=
    fun rule member => blind rule (perm.mem_iff.mpr member)
  obtain ⟨resolved, gained⟩ := Rule.gains_evaluateAll blind returns
  obtain ⟨resolvedOther, gainedOther⟩ := Rule.gains_evaluateAll blindOther returnsOther
  have gains := gained.append retraced.gains
  have gainsOther := gainedOther.append retracedOther.gains
  have same := (perm.flatMap_right (Rule.deeds view)).append_right []
  exact ⟨⟨resolved, resolvedOther⟩,
    ⟨gains.within_of_perm gainsOther same, gainsOther.within_of_perm gains same.symm⟩,
    gains.isAdditive, gainsOther.isAdditive⟩

/-! ## Numbers -/

/-- Two combats have the same numbers that are sums, the same rerolls, and keywords that
come to the same. -/
structure CombatNumbers.SameTotals (numbers other : CombatNumbers) : Prop where
  hit : numbers.hit = other.hit
  wound : numbers.wound = other.wound
  strength : numbers.strength = other.strength
  armourPenetration : numbers.armourPenetration = other.armourPenetration
  attacksModifier : numbers.attacksModifier = other.attacksModifier
  damageModifier : numbers.damageModifier = other.damageModifier
  hitReroll : numbers.hitReroll = other.hitReroll
  woundReroll : numbers.woundReroll = other.woundReroll
  damageReroll : numbers.damageReroll = other.damageReroll
  keywords : numbers.keywords.Alike other.keywords

/-- On rearranged boards that add up, the sums are the same. -/
theorem Merged.sameTotals {attacker attackerOther defender defenderOther : Board}
    {numbers other : CombatNumbers}
    (merged : Merged encounter attacker defender view numbers)
    (mergedOther : Merged encounter attackerOther defenderOther view other)
    (attackers : attacker.Rearranged attackerOther)
    (defenders : defender.Rearranged defenderOther)
    (adds : attacker.ledger.IsAdditive ∧ attackerOther.ledger.IsAdditive)
    (addsAgainst : defender.ledger.IsAdditive ∧ defenderOther.ledger.IsAdditive) :
    numbers.SameTotals other := by
  have alike := attackers.keywords merged.keywords mergedOther.keywords
  have flag : ∀ flag, numbers.keywords.hasAbility flag = other.keywords.hasAbility flag :=
    fun flag => alike.has (.ability flag)
  have both : ∀ stat ∈ additiveStats, ∀ {net netOther : Int},
      attacker.ledger.netIntOfBoth defender.ledger stat = .ok net →
      attackerOther.ledger.netIntOfBoth defenderOther.ledger stat = .ok netOther →
      net = netOther := by
    intro stat additive net netOther summed summedOther
    rw [Ledger.netIntOfBoth_eq (adds.1 stat additive) (addsAgainst.1 stat additive) summed,
      Ledger.netIntOfBoth_eq (adds.2 stat additive) (addsAgainst.2 stat additive) summedOther,
      attackers.total, defenders.total]
  have based : ∀ stat ∈ additiveStats, ∀ {base value valueOther : Int},
      attacker.ledger.applyInt stat base = .ok value →
      attackerOther.ledger.applyInt stat base = .ok valueOther → value = valueOther := by
    intro stat additive base value valueOther applied appliedOther
    rw [Ledger.applyInt_eq (adds.1 stat additive) applied,
      Ledger.applyInt_eq (adds.2 stat additive) appliedOther, attackers.total]
  have own : ∀ stat ∈ additiveStats, ∀ {net netOther : Int},
      attacker.ledger.netInt stat = .ok net → attackerOther.ledger.netInt stat = .ok netOther →
      net = netOther := by
    intro stat additive net netOther summed summedOther
    rw [Ledger.netInt_eq (adds.1 stat additive) summed,
      Ledger.netInt_eq (adds.2 stat additive) summedOther, attackers.total]
  exact {
    hit := by
      obtain ⟨net, summed, eq⟩ := merged.hit
      obtain ⟨netOther, summedOther, eqOther⟩ := mergedOther.hit
      obtain rfl := both "hit" (by decide) summed summedOther
      rw [eq, eqOther, Encounter.isSteady, Encounter.isSteady, flag]
    wound := by
      obtain ⟨net, summed, eq⟩ := merged.wound
      obtain ⟨netOther, summedOther, eqOther⟩ := mergedOther.wound
      obtain rfl := both "wound" (by decide) summed summedOther
      rw [eq, eqOther, Encounter.isLanceCharge, Encounter.isLanceCharge, flag]
    strength := based "S" (by decide) merged.strength mergedOther.strength
    armourPenetration := by
      obtain ⟨value, applied, eq⟩ := merged.armourPenetration
      obtain ⟨valueOther, appliedOther, eqOther⟩ := mergedOther.armourPenetration
      rw [eq, eqOther, based "AP" (by decide) applied appliedOther]
    attacksModifier := by
      have found := merged.attacksModifier
      have foundOther := mergedOther.attacksModifier
      rw [← flag] at foundOther
      split at found
      · rename_i extra
        rw [if_pos extra] at foundOther
        exact ok_unique found foundOther
      · rename_i extra
        rw [if_neg extra] at foundOther
        exact own "A" (by decide) found foundOther
    damageModifier := own "D" (by decide) merged.damageModifier mergedOther.damageModifier
    hitReroll := by rw [merged.hitReroll, mergedOther.hitReroll, attackers.rerollKind?]
    woundReroll := by
      rw [merged.woundReroll, mergedOther.woundReroll, attackers.rerollKind?,
        Keywords.woundRerolls, Keywords.woundRerolls, flag]
    damageReroll := by rw [merged.damageReroll, mergedOther.damageReroll, attackers.rerollKind?]
    keywords := alike }

/-- Blind rules may come in any order: each of them comes to the same, and so do the sums,
the rerolls and the keywords of the combat. -/
theorem prepare_perm {attackerRules attackerOrder defenderRules defenderOrder : List Rule}
    {trace traceOther : Trace} {combat other : PreparedCombat}
    (blind : ∀ rule ∈ attackerRules ++ defenderRules, rule.isBlind = true)
    (attackers : attackerRules.Perm attackerOrder) (defenders : defenderRules.Perm defenderOrder)
    (prepared : (prepare encounter attackerRules defenderRules trace).1 = .ok combat)
    (preparedOther :
      (prepare encounter attackerOrder defenderOrder traceOther).1 = .ok other) :
    (∃ resolve : Rule → Resolution, combat.attacker.resolutions = attackerRules.map resolve ∧
      other.attacker.resolutions = attackerOrder.map resolve) ∧
    (∃ resolve : Rule → Resolution, combat.defender.resolutions = defenderRules.map resolve ∧
      other.defender.resolutions = defenderOrder.map resolve) ∧
    combat.numbers.SameTotals other.numbers := by
  obtain ⟨blindAttackers, blindDefenders⟩ := List.forall_mem_append.mp blind
  obtain ⟨evaluates, evaluatesAgainst⟩ := evaluates_of_prepare prepared
  obtain ⟨evaluatesOther, evaluatesAgainstOther⟩ := evaluates_of_prepare preparedOther
  obtain ⟨resolved, rearranged, adds⟩ :=
    evaluates.rearranged blindAttackers attackers evaluatesOther
  obtain ⟨resolvedAgainst, rearrangedAgainst, addsAgainst⟩ :=
    evaluatesAgainst.rearranged blindDefenders defenders evaluatesAgainstOther
  exact ⟨⟨_, resolved⟩, ⟨_, resolvedAgainst⟩,
    (Merged.of_mergeNumbers (merged_of_prepare prepared)).sameTotals
      (.of_mergeNumbers (merged_of_prepare preparedOther)) rearranged rearrangedAgainst adds
      addsAgainst⟩

/-- Hunters who shoot at boyz within half range. -/
def closeShooting : Encounter where
  attacker := { id := "hunters", armyId := "wolves" }
  defender := { id := "boyz", armyId := "orks", categories := ["Infantry"] }
  weapon := { name := "Boltgun", range := 24, keywords := ["Rapid Fire 1"] }
  circumstances := { withinHalfRange := true }

/-- Blind rules that add to one another. -/
def huntersRules : List Rule :=
  [Rule.passiveRule "aiming" (.unitStatus [.withinHalfRange]) (.modHit 1),
    Rule.passiveRule "bane" .always (.addWeaponAbility (.anti "infantry" 5)),
    Rule.passiveRule "steady aim" .always (.modHit 1),
    Rule.passiveRule "hatred" .always (.addWeaponAbility (.anti "Infantry" 4))]

/-- The hit rolls and the best threshold against infantry are the same in reverse. -/
theorem huntersRules_reversed :
    (∀ rule ∈ huntersRules ++ [], rule.isBlind = true) ∧
    ∃ combat other : PreparedCombat,
      (prepare closeShooting huntersRules [] none).1 = .ok combat ∧
      (prepare closeShooting huntersRules.reverse [] none).1 = .ok other ∧
      (combat.numbers.hit, combat.numbers.keywords.antiThreshold? ["Infantry"]) =
        (2, some 4) ∧
      (∃ resolve : Rule → Resolution,
        combat.attacker.resolutions = huntersRules.map resolve ∧
        other.attacker.resolutions = huntersRules.reverse.map resolve) ∧
      combat.numbers.SameTotals other.numbers := by
  have blind : ∀ rule ∈ huntersRules ++ [], rule.isBlind = true := by decide +kernel
  have ran : (prepare closeShooting huntersRules [] none).1.toOption.map (fun combat =>
      (combat.numbers.hit, combat.numbers.keywords.antiThreshold? ["Infantry"])) =
      some (2, some 4) := by
    decide +kernel
  have ranReversed : (prepare closeShooting huntersRules.reverse [] none).1.toOption.map
      (fun _ => ()) = some () := by
    decide +kernel
  obtain ⟨combat, prepared, shown⟩ := exists_ok_of_shown ran
  obtain ⟨other, preparedOther, -⟩ := exists_ok_of_shown ranReversed
  obtain ⟨resolved, -, same⟩ :=
    prepare_perm blind (List.reverse_perm _).symm (List.Perm.refl []) prepared preparedOther
  exact ⟨blind, combat, other, prepared, preparedOther, shown, resolved, same⟩

end Skirmish
