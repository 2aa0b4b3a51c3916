import Skirmish.Content.Inspection
import Skirmish.Proofs.Schema

/-!
# Dice in the weapons of scenarios

The search for weapons looks at places in a value that no schema was applied to, and the
reading of a scenario looks at its fields.  Both come upon the scenario's weapon: a scenario
that was read from a value without findings has a weapon with dice expressions.
-/

namespace Skirmish

open Schema Checked

/-- What the search for dice comes upon in a field of an object, it comes upon in the
object. -/
theorem diceValues_field_subset {place name : String} {fields : Fields} {value : Value}
    (found : fields.get? name = some value) :
    ((diceFields.contains name && endsWith "weapon" place) = true →
      (fieldPlace place name, value) ∈ diceValuesOfFields place fields) ∧
    diceValues (fieldPlace place name) value ⊆ diceValuesOfFields place fields := by
  induction fields with
  | nil => cases found
  | cons field rest ih =>
      obtain ⟨first, held⟩ := field
      unfold Fields.get? at found
      rw [List.lookup_cons] at found
      simp only [diceValuesOfFields]
      split at found
      · rename_i same
        cases found
        rw [beq_iff_eq.mp same]
        refine ⟨fun weapon => ?_, ?_⟩
        · rw [if_pos weapon]
          exact List.mem_cons_self
        · exact List.subset_append_of_subset_left _ (List.subset_append_right _ _)
      · obtain ⟨own, within⟩ := ih found
        exact ⟨fun weapon => List.mem_append_right _ (own weapon),
          List.subset_append_of_subset_right _ within⟩

theorem isDiceText_of_clean {file : Path} {place name given : String} {fields : Fields}
    (dice : diceFields.contains name = true) (weapon : endsWith "weapon" place = true)
    (clean : diceFindings file place (.object fields) = [])
    (accepted : defaulted fields name "1" text = .accepted given) :
    isDiceText given = true := by
  rcases defaulted_eq_accepted_iff.mp accepted with ⟨value, found, spelled⟩ | ⟨-, rfl⟩
  · have listed := (diceValues_field_subset found).1 (by rw [dice, weapon]; rfl)
    have none := List.filterMap_eq_nil_iff.mp clean _ (by simpa only [diceValues] using listed)
    rw [text_eq_accepted_iff.mp spelled] at none
    cases read : isDiceText given with
    | true => rfl
    | false => simp [diceFinding?, read] at none
  · decide +kernel

/-! ## Reading back -/

theorem Weapon.dice_of_read {value : Value} {weapon : Weapon}
    (accepted : Weapon.read value = .accepted weapon) :
    ∃ fields, value = .object fields ∧
      defaulted fields "A" "1" text = .accepted weapon.attacks ∧
      defaulted fields "D" "1" text = .accepted weapon.damage := by
  obtain ⟨fields, rfl, read⟩ := record_eq_accepted_iff.mp accepted
  simp only [seq_eq_accepted_iff, map_eq_accepted_iff] at read
  -- The fields come off from the last one on.
  obtain ⟨_, keywords, read, -, rfl⟩ := read
  obtain ⟨_, damage, read, readDamage, rfl⟩ := read
  obtain ⟨_, armourPenetration, read, -, rfl⟩ := read
  obtain ⟨_, strength, read, -, rfl⟩ := read
  obtain ⟨_, skill, read, -, rfl⟩ := read
  obtain ⟨_, attacks, read, readAttacks, rfl⟩ := read
  obtain ⟨_, range, read, -, rfl⟩ := read
  obtain ⟨name, -, rfl⟩ := read
  exact ⟨fields, rfl, readAttacks, readDamage⟩

theorem Scenario.weapon_of_read {value : Value} {scenario : Scenario}
    (accepted : Scenario.read value = .accepted scenario) :
    ∃ fields, value = .object fields ∧
      required fields "weapon" Weapon.read = .accepted scenario.weapon := by
  obtain ⟨fields, rfl, read⟩ := record_eq_accepted_iff.mp accepted
  simp only [seq_eq_accepted_iff, map_eq_accepted_iff] at read
  obtain ⟨_, armyStates, read, -, rfl⟩ := read
  obtain ⟨_, defenderRules, read, -, rfl⟩ := read
  obtain ⟨_, attackerRules, read, -, rfl⟩ := read
  obtain ⟨_, circumstances, read, -, rfl⟩ := read
  obtain ⟨_, game, read, -, rfl⟩ := read
  obtain ⟨_, weapon, read, readWeapon, rfl⟩ := read
  obtain ⟨_, defender, read, -, rfl⟩ := read
  obtain ⟨_, attacker, read, -, rfl⟩ := read
  obtain ⟨_, name, read, -, rfl⟩ := read
  obtain ⟨id, -, rfl⟩ := read
  exact ⟨fields, rfl, readWeapon⟩

/-- A scenario that is read where nothing is found has a weapon with dice expressions. -/
theorem Scenario.dice_of_clean {file : Path} {value : Value} {scenario : Scenario}
    (accepted : Scenario.read value = .accepted scenario)
    (clean : diceFindings file RecordKind.scenario.folder value = []) :
    isDiceText scenario.weapon.attacks = true ∧ isDiceText scenario.weapon.damage = true := by
  obtain ⟨fields, rfl, readWeapon⟩ := Scenario.weapon_of_read accepted
  obtain ⟨value, found, acceptedWeapon⟩ := required_eq_accepted_iff.mp readWeapon
  obtain ⟨weaponFields, rfl, attacks, damage⟩ := Weapon.dice_of_read acceptedWeapon
  have cleanWeapon : diceFindings file (fieldPlace RecordKind.scenario.folder "weapon")
      (.object weaponFields) = [] := by
    refine List.filterMap_eq_nil_iff.mpr fun dice listed => ?_
    have within := (diceValues_field_subset found).2 listed
    exact List.filterMap_eq_nil_iff.mp clean dice (by simpa only [diceValues] using within)
  have place : endsWith "weapon" (fieldPlace RecordKind.scenario.folder "weapon") = true := by
    decide +kernel
  exact ⟨isDiceText_of_clean rfl place cleanWeapon attacks,
    isDiceText_of_clean rfl place cleanWeapon damage⟩

end Skirmish
