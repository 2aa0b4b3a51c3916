import Skirmish.Proofs.Combat.Attack
import Skirmish.Proofs.Combat.Growth
import Skirmish.Proofs.Combat.Numbers
import Skirmish.Proofs.Combat.Writings

/-!
# What each side may change

An action that writes a stat of the attack helps the attacker, and one that writes a stat
of the defence helps the defender.  The view of a role admits the actions that help it, so
the ledger of the attacker never holds a stat of the defence, nor that of the defender a
stat of the attack, whatever rules are evaluated and wherever they stop.  The numbers of
the attack are read from the attacker's board alone, and those of the defence from the
defender's, so no rule of one side changes the numbers of the other.
-/

namespace Skirmish

/-! ## The stats of a role -/

/-- The characteristics and rolls of an attack. -/
def attackStats : List String := ["S", "AP", "A", "D", "critHit", "critWound"]

/-- The stats of the attack: its characteristics and rolls, its rerolls, and the abilities
of its weapon. -/
def isAttackStat (stat : String) : Bool :=
  attackStats.contains stat || "reroll:".toList.isPrefixOf stat.toList ||
    "weaponAbility:".toList.isPrefixOf stat.toList

/-- The characteristics of a defender. -/
def defenceStats : List String := ["T", "SV", "W", "INV", "FNP"]

/-- The stats that the ledger of a role may hold: all but those of the other role. -/
def Role.MayHold : Role → String → Prop
  | .attacker, stat => stat ∉ defenceStats
  | .defender, stat => isAttackStat stat = false

theorem isAttackStat_eq_false {stat : String}
    (foreign : stat.toList.take 2 ∉
      (attackStats ++ ["reroll:", "weaponAbility:"]).map (·.toList.take 2)) :
    isAttackStat stat = false := by
  rw [Bool.eq_false_iff]
  intro attack
  simp only [isAttackStat, Bool.or_eq_true, List.contains_iff_mem,
    List.isPrefixOf_iff_prefix] at attack
  refine foreign ?_
  rcases attack with (own | ⟨rest, same⟩) | ⟨rest, same⟩
  · exact List.mem_map_of_mem (List.mem_append_left _ own)
  · rw [← same]
    exact List.mem_map_of_mem (f := (·.toList.take 2)) (a := "reroll:") (by decide)
  · rw [← same]
    exact List.mem_map_of_mem (f := (·.toList.take 2)) (a := "weaponAbility:") (by decide)

theorem not_mem_defenceStats {stat : String}
    (foreign : stat.toList.take 2 ∉ defenceStats.map (·.toList.take 2)) :
    stat ∉ defenceStats :=
  fun own => foreign (List.mem_map_of_mem own)

/-! ## Writing -/

theorem Action.not_mem_defenceStats_entry {action : Action}
    (admitted : action.intent.obstacle? .attacker = none) :
    action.entry.stat ∉ defenceStats := by
  cases action with
  | modHitAgainst | modWoundAgainst | modDefensiveStat | setDefensiveStat
  | setInvulnerable | setFeelNoPain => cases admitted
  | modHit | modWound | modMove | setCriticalHit | setCriticalWound =>
      simp [entry, defenceStats]
  | modWeaponStat stat add => cases stat <;> simp [entry, defenceStats, Vocabulary.word]
  | reroll phase kind =>
      refine not_mem_defenceStats ?_
      cases phase <;> cases kind <;> decide
  | addWeaponAbility ability | addUnitAbility ability =>
      refine not_mem_defenceStats ?_
      rw [entry, Ability.stat, take_grant (by decide)]
      decide
  | addKeyword keyword value =>
      refine not_mem_defenceStats ?_
      rw [entry, take_grant (by decide)]
      decide

theorem Action.isAttackStat_entry {action : Action}
    (admitted : action.intent.obstacle? .defender = none) :
    isAttackStat action.entry.stat = false := by
  have plain : ∀ stat ∈ ["hit", "wound", "M"] ++ defenceStats, isAttackStat stat = false := by
    decide
  cases action with
  | modHit | modWound | modWeaponStat | addWeaponAbility | setCriticalHit
  | setCriticalWound | reroll => cases admitted
  | modHitAgainst | modWoundAgainst | modMove | setInvulnerable | setFeelNoPain =>
      exact plain _ (by simp [entry, defenceStats])
  | modDefensiveStat stat add | setDefensiveStat stat n =>
      exact plain _ (by cases stat <;> simp [entry, defenceStats, Vocabulary.word])
  | addUnitAbility ability =>
      refine isAttackStat_eq_false ?_
      rw [entry, Ability.stat, take_grant (by decide)]
      decide
  | addKeyword keyword value =>
      refine isAttackStat_eq_false ?_
      rw [entry, take_grant (by decide)]
      decide

/-- An action that a view admits writes a stat that the ledger of its role may hold. -/
theorem View.Admits.mayHold {view : View} {action : Action} (admits : view.Admits action) :
    view.role.MayHold action.entry.stat := by
  unfold View.Admits at admits
  cases own : view.role with
  | attacker => exact Action.not_mem_defenceStats_entry (own ▸ admits)
  | defender => exact Action.isAttackStat_entry (own ▸ admits)

theorem View.respects_mayHold (view : View) (source : String) :
    view.Respects source fun board other =>
      board.ledger.Confined view.role.MayHold → other.ledger.Confined view.role.MayHold where
  note := by
    rintro board _ ⟨_, rfl⟩ confined
    exact confined
  write board admitted confined := confined.add admitted.mayHold

/-- Rules leave the ledger of a side with stats that its role may hold, whether their
evaluation returns or stops. -/
theorem Rule.confined_evaluateAll {view : View} {board : Board}
    (confined : board.ledger.Confined view.role.MayHold) (rules : List Rule) :
    (outcomeOf (evaluateAll view rules) board).2.ledger.Confined view.role.MayHold :=
  moves_evaluateAll (fun rule _ => (view.respects_mayHold rule.id).moves_rule) board confined

/-! ## Numbers -/

/-- Two combats have the same numbers of the attack, but for the hit and wound rolls, which
both sides have a say in. -/
structure CombatNumbers.SameAttack (numbers other : CombatNumbers) : Prop where
  keywords : numbers.keywords = other.keywords
  strength : numbers.strength = other.strength
  armourPenetration : numbers.armourPenetration = other.armourPenetration
  attacksModifier : numbers.attacksModifier = other.attacksModifier
  damageModifier : numbers.damageModifier = other.damageModifier
  criticalHit : numbers.criticalHit = other.criticalHit
  criticalWound : numbers.criticalWound = other.criticalWound
  hitReroll : numbers.hitReroll = other.hitReroll
  woundReroll : numbers.woundReroll = other.woundReroll
  damageReroll : numbers.damageReroll = other.damageReroll

/-- Two combats have the same numbers of the defence. -/
structure CombatNumbers.SameDefence (numbers other : CombatNumbers) : Prop where
  toughness : numbers.toughness = other.toughness
  save : numbers.save = other.save
  invulnerable : numbers.invulnerable = other.invulnerable
  feelNoPain : numbers.feelNoPain = other.feelNoPain

namespace Merged

variable {encounter : Encounter} {attacker attackerOther defender defenderOther : Board}
  {view : View} {numbers other : CombatNumbers}

theorem sameAttack (merged : Merged encounter attacker defender view numbers)
    (mergedOther : Merged encounter attackerOther defenderOther view other)
    (retraced : attacker.Retraced attackerOther) : numbers.SameAttack other := by
  obtain ⟨_, rfl⟩ := retraced
  have keywords := ok_unique merged.keywords mergedOther.keywords
  have attacksModifier := mergedOther.attacksModifier
  have criticalWound := mergedOther.criticalWound
  rw [← keywords] at attacksModifier criticalWound
  exact {
    keywords
    strength := ok_unique merged.strength mergedOther.strength
    armourPenetration := made_unique merged.armourPenetration mergedOther.armourPenetration
    attacksModifier := ok_unique merged.attacksModifier attacksModifier
    damageModifier := ok_unique merged.damageModifier mergedOther.damageModifier
    criticalHit := ok_unique merged.criticalHit mergedOther.criticalHit
    criticalWound := made_unique merged.criticalWound criticalWound
    hitReroll := merged.hitReroll.trans mergedOther.hitReroll.symm
    woundReroll := by rw [merged.woundReroll, mergedOther.woundReroll, keywords]
    damageReroll := merged.damageReroll.trans mergedOther.damageReroll.symm }

theorem sameDefence {viewOther : View} (merged : Merged encounter attacker defender view numbers)
    (mergedOther : Merged encounter attackerOther defenderOther viewOther other)
    (retraced : defender.Retraced defenderOther) : numbers.SameDefence other := by
  obtain ⟨_, rfl⟩ := retraced
  exact {
    toughness := made_unique merged.toughness mergedOther.toughness
    save := ok_unique merged.save mergedOther.save
    invulnerable := made_unique merged.invulnerable mergedOther.invulnerable
    feelNoPain := made_unique merged.feelNoPain mergedOther.feelNoPain }

end Merged

variable {encounter : Encounter}

/-- Combats whose attackers bring the same rules have the same numbers of the attack. -/
theorem sameAttack_of_prepare {attackerRules defenderRules otherRules : List Rule}
    {trace traceOther : Trace} {combat other : PreparedCombat}
    (prepared : (prepare encounter attackerRules defenderRules trace).1 = .ok combat)
    (preparedOther : (prepare encounter attackerRules otherRules traceOther).1 = .ok other) :
    combat.numbers.SameAttack other.numbers := by
  have evaluates := (evaluates_of_prepare prepared).1
  have retraced := (evaluates.unique (evaluates_of_prepare preparedOther).1).2
  exact (Merged.of_mergeNumbers (merged_of_prepare prepared)).sameAttack
    (.of_mergeNumbers (merged_of_prepare preparedOther)) retraced

/-- Combats whose defenders bring the same rules have the same numbers of the defence, and
models with the same wounds. -/
theorem sameDefence_of_prepare {attackerRules otherRules defenderRules : List Rule}
    {trace traceOther : Trace} {combat other : PreparedCombat}
    (prepared : (prepare encounter attackerRules defenderRules trace).1 = .ok combat)
    (preparedOther : (prepare encounter otherRules defenderRules traceOther).1 = .ok other) :
    combat.numbers.SameDefence other.numbers ∧
      combat.woundsOfModel encounter.defender = other.woundsOfModel encounter.defender := by
  have evaluates := (evaluates_of_prepare prepared).2
  have retraced := (evaluates.unique (evaluates_of_prepare preparedOther).2).2
  have same := (Merged.of_mergeNumbers (merged_of_prepare prepared)).sameDefence
    (.of_mergeNumbers (merged_of_prepare preparedOther)) retraced
  refine ⟨same, ?_⟩
  unfold PreparedCombat.woundsOfModel
  obtain ⟨_, eq⟩ := retraced
  rw [eq]

/-- The ledger of a role never holds a stat of the other role.  So the rules of the
defender change no number of the attack, and those of the attacker none of the defence, nor
the wounds that a model of the target has. -/
theorem prepare_keeps_roles :
    (∀ role rules trace,
      (outcomeOf (Rule.evaluateAll (encounter.view role) rules)
        ((encounter.view role).board trace)).2.ledger.Confined role.MayHold) ∧
    (∀ {attackerRules defenderRules otherRules trace traceOther combat other},
      (prepare encounter attackerRules defenderRules trace).1 = .ok combat →
      (prepare encounter attackerRules otherRules traceOther).1 = .ok other →
      combat.numbers.SameAttack other.numbers) ∧
    ∀ {attackerRules otherRules defenderRules trace traceOther combat other},
      (prepare encounter attackerRules defenderRules trace).1 = .ok combat →
      (prepare encounter otherRules defenderRules traceOther).1 = .ok other →
      combat.numbers.SameDefence other.numbers ∧
        combat.woundsOfModel encounter.defender = other.woundsOfModel encounter.defender :=
  ⟨fun role rules _ =>
    @Rule.confined_evaluateAll (encounter.view role) _ .empty rules,
    sameAttack_of_prepare, sameDefence_of_prepare⟩

/-- Riders who charge at boyz. -/
def cavalryCharge : Encounter where
  attacker := { id := "riders", armyId := "wolves" }
  defender := { id := "boyz", armyId := "orks" }
  weapon := { name := "Spear" }
  circumstances := { unitHasCharged := true }

/-- Rules that either side may bring: one for the attack, and one for the defence. -/
def strengthAndToughness : List Rule :=
  [Rule.passiveRule "strength" .always (.modWeaponStat .strength 1),
    Rule.passiveRule "toughness" .always (.modDefensiveStat .toughness 2)]

/-- Whichever side brings the rules, that for the attack helps the attacker only, and that
for the defence the defender. -/
theorem strengthAndToughness_keep_roles :
    ∃ both attacking defending : PreparedCombat,
      (prepare cavalryCharge strengthAndToughness strengthAndToughness none).1 = .ok both ∧
      (prepare cavalryCharge strengthAndToughness [] none).1 = .ok attacking ∧
      (prepare cavalryCharge [] strengthAndToughness none).1 = .ok defending ∧
      (attacking.numbers.strength, attacking.numbers.toughness) = (5, 4) ∧
      (defending.numbers.strength, defending.numbers.toughness) = (4, 6) ∧
      both.numbers.SameAttack attacking.numbers ∧
      both.numbers.SameDefence defending.numbers ∧
      both.woundsOfModel cavalryCharge.defender =
        defending.woundsOfModel cavalryCharge.defender := by
  have ranBoth : (prepare cavalryCharge strengthAndToughness strengthAndToughness
      none).1.toOption.map (fun _ => ()) = some () := by
    decide +kernel
  have ranAttacking : (prepare cavalryCharge strengthAndToughness [] none).1.toOption.map
      (fun combat => (combat.numbers.strength, combat.numbers.toughness)) = some (5, 4) := by
    decide +kernel
  have ranDefending : (prepare cavalryCharge [] strengthAndToughness none).1.toOption.map
      (fun combat => (combat.numbers.strength, combat.numbers.toughness)) = some (4, 6) := by
    decide +kernel
  obtain ⟨both, prepared, -⟩ := exists_ok_of_shown ranBoth
  obtain ⟨attacking, preparedAttacking, shownAttacking⟩ := exists_ok_of_shown ranAttacking
  obtain ⟨defending, preparedDefending, shownDefending⟩ := exists_ok_of_shown ranDefending
  obtain ⟨-, sameAttack, sameDefence⟩ := @prepare_keeps_roles cavalryCharge
  obtain ⟨defence, wounds⟩ := sameDefence prepared preparedDefending
  exact ⟨both, attacking, defending, prepared, preparedAttacking, preparedDefending,
    shownAttacking, shownDefending, sameAttack prepared preparedAttacking, defence, wounds⟩

end Skirmish
