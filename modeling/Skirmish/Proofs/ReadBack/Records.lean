import Skirmish.Proofs.ReadBack.Effects
import Skirmish.Rulebook.Scenario
import Skirmish.Rulebook.Stratagem

/-!
# Reading back units, stratagems and scenarios

A record whose fields are free reads back whatever it holds.  One that puts a bound or a check
on its fields reads back when it was read before.
-/

namespace Skirmish

open Schema Checked

/-! ## Vocabularies -/

instance : LawfulVocabulary Phase :=
  ⟨by intro phase; cases phase <;> rfl⟩

instance : LawfulVocabulary StratagemPhase :=
  ⟨by intro phase; cases phase <;> rfl⟩

instance : LawfulVocabulary StratagemTurn :=
  ⟨by intro turn; cases turn <;> rfl⟩

instance : LawfulVocabulary RoundRestriction :=
  ⟨by intro restriction; cases restriction <;> rfl⟩

/-! ## Records with free fields -/

@[simp]
theorem ArmyState.read_dump (state : ArmyState) : read state.dump = .accepted state := by
  simp [read, dump, record]

@[simp]
theorem ModelProfile.read_dump (model : ModelProfile) : read model.dump = .accepted model := by
  simp [read, dump, record]

@[simp]
theorem Weapon.read_dump (weapon : Weapon) : read weapon.dump = .accepted weapon := by
  simp [read, dump, record]

@[simp]
theorem Circumstances.read_dump (circumstances : Circumstances) :
    read circumstances.dump = .accepted circumstances := by
  simp [read, dump, record]

@[simp]
theorem Game.read_dump (game : Game) : read game.dump = .accepted game := by
  simp [read, dump, record]

/-! ## Records with checks -/

theorem Stratagem.readsBack : ReadsBack read dump := by
  intro value stratagem accepted
  obtain ⟨fields, -, checked⟩ := record_eq_accepted_iff.mp accepted
  obtain ⟨inner, consistent⟩ := ensure_eq_accepted_iff.mp checked
  have cost : intFrom 0 (.int stratagem.cost) = .accepted stratagem.cost := by
    simp only [seq_eq_accepted_iff, map_eq_accepted_iff] at inner
    -- The fields come off from the last one on.
    obtain ⟨_, turn, inner, -, rfl⟩ := inner
    obtain ⟨_, roundRestriction, inner, -, rfl⟩ := inner
    obtain ⟨_, detachmentAliases, inner, -, rfl⟩ := inner
    obtain ⟨_, detachment, inner, -, rfl⟩ := inner
    obtain ⟨_, faction, inner, -, rfl⟩ := inner
    obtain ⟨_, effect, inner, -, rfl⟩ := inner
    obtain ⟨_, condition, inner, -, rfl⟩ := inner
    obtain ⟨_, phase, inner, -, rfl⟩ := inner
    obtain ⟨_, cost, inner, acceptedCost, rfl⟩ := inner
    obtain ⟨_, name, ⟨id, -, rfl⟩, -, rfl⟩ := inner
    exact (readsBack_intFrom 0).defaulted rfl acceptedCost
  refine ensure_eq_accepted_iff.mpr ⟨?_, consistent⟩
  simp [cost]

theorem BattleUnit.readsBack : ReadsBack read dump := by
  intro value unit accepted
  obtain ⟨fields, -, inner⟩ := record_eq_accepted_iff.mp accepted
  have abilities : list UnitAbility.read (.list (unit.abilities.map UnitAbility.dump)) =
      .accepted unit.abilities := by
    simp only [seq_eq_accepted_iff, map_eq_accepted_iff] at inner
    obtain ⟨_, bodyguardUnitIds, inner, -, rfl⟩ := inner
    obtain ⟨_, leaderId, inner, -, rfl⟩ := inner
    obtain ⟨_, isLeader, inner, -, rfl⟩ := inner
    obtain ⟨_, models, inner, -, rfl⟩ := inner
    obtain ⟨_, abilities, inner, acceptedAbilities, rfl⟩ := inner
    obtain ⟨_, keywords, inner, -, rfl⟩ := inner
    obtain ⟨_, categories, inner, -, rfl⟩ := inner
    obtain ⟨_, name, inner, -, rfl⟩ := inner
    obtain ⟨_, armyId, ⟨id, -, rfl⟩, -, rfl⟩ := inner
    exact UnitAbility.readsBack.list.defaulted rfl acceptedAbilities
  have models : list ModelProfile.read (.list (unit.models.map ModelProfile.dump)) =
      .accepted unit.models :=
    list_map fun model _ => model.read_dump
  simp [read, dump, record, abilities, models]

theorem Scenario.readsBack : ReadsBack read dump := by
  intro value scenario accepted
  obtain ⟨fields, -, inner⟩ := record_eq_accepted_iff.mp accepted
  obtain ⟨attacker, defender⟩ :
      BattleUnit.read scenario.attacker.dump = .accepted scenario.attacker ∧
        BattleUnit.read scenario.defender.dump = .accepted scenario.defender := by
    simp only [seq_eq_accepted_iff, map_eq_accepted_iff] at inner
    obtain ⟨_, armyStates, inner, -, rfl⟩ := inner
    obtain ⟨_, defenderRules, inner, -, rfl⟩ := inner
    obtain ⟨_, attackerRules, inner, -, rfl⟩ := inner
    obtain ⟨_, circumstances, inner, -, rfl⟩ := inner
    obtain ⟨_, game, inner, -, rfl⟩ := inner
    obtain ⟨_, weapon, inner, -, rfl⟩ := inner
    obtain ⟨_, defender, inner, acceptedDefender, rfl⟩ := inner
    obtain ⟨_, attacker, inner, acceptedAttacker, rfl⟩ := inner
    obtain ⟨_, name, ⟨id, -, rfl⟩, -, rfl⟩ := inner
    exact ⟨BattleUnit.readsBack.required acceptedAttacker,
      BattleUnit.readsBack.required acceptedDefender⟩
  have armyStates : list ArmyState.read (.list (scenario.armyStates.map ArmyState.dump)) =
      .accepted scenario.armyStates :=
    list_map fun state _ => state.read_dump
  simp [read, dump, record, attacker, defender, armyStates]

end Skirmish
