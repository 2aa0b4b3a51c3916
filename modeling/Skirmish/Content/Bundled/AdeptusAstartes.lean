import Skirmish.Rulebook.Rule
import Skirmish.Rulebook.Stratagem

/-!
# Adeptus Astartes

The rules and stratagems of the Adeptus Astartes.
-/

namespace Skirmish.Bundled.AdeptusAstartes

def faction : String := "Adeptus Astartes"

/-! ## Rules -/

def oathOfMoment : Rule where
  id := "oath-of-moment"
  name := "Oath of Moment"
  description :=
    "At the start of your Command phase, select one unit from your opponent's army. Each time " ++
    "a model from your army makes an attack that targets that unit, you can re-roll the Hit " ++
    "roll."
  faction := faction
  scope := .army
  trigger := { phase := .several [.shooting, .fight] }
  condition := .all [.combatRole .attacker, .isTargetedUnit]
  body := .passive [.perform [.known (.reroll .hit .all) .all []]]

def combatDoctrines : Rule where
  id := "combat-doctrines"
  name := "Combat Doctrines"
  description :=
    "At the start of your Command phase, you can select one Combat Doctrine. Each can only be " ++
    "selected once per battle."
  faction := faction
  scope := .army
  trigger := { kind := .manual, phase := .one .command, turn := .own, limit := .oncePerTurn }
  body := .choice {
      id := "combat-doctrine"
      prompt := "Select the active Combat Doctrine"
      lifetime := .turn
      options := [
        { value := "devastator", label := "Devastator Doctrine" },
        { value := "tactical", label := "Tactical Doctrine" },
        { value := "assault", label := "Assault Doctrine" }] }

def tacticalPrecision : Rule where
  id := "tactical-precision"
  name := "Tactical Precision"
  description :=
    "While this model is leading a unit, weapons equipped by models in that unit have the " ++
    "[LETHAL HITS] ability."
  faction := faction
  trigger := { phase := .several [.shooting, .fight] }
  condition := .beingLed
  body := .passive [.perform [.known (.addWeaponAbility (.flag .lethalHits)) .all []]]

def armourOfContemptReminder : Rule where
  id := "armour-of-contempt-reminder"
  name := "Armour of Contempt"
  description :=
    "Remember the Armour of Contempt stratagem when an enemy unit selects its targets."
  faction := faction
  scope := .army
  trigger := { kind := .reactive, phase := .several [.shooting, .fight], turn := .opponent }
  body := .reminder

def rules : List Rule :=
  [oathOfMoment, combatDoctrines, tacticalPrecision, armourOfContemptReminder]

/-! ## Stratagems -/

def armourOfContempt : Stratagem where
  id := "armour-of-contempt"
  name := "Armour of Contempt"
  condition :=
    "Your opponent's Shooting phase or Fight phase, just after an enemy unit has selected its " ++
    "targets"
  effect :=
    "Until the attacking unit has finished making its attacks, worsen the Armour Penetration " ++
    "characteristic of those attacks by 1."
  faction := some faction
  detachment := some "Gladius Task Force"
  turn := .opponentTurn

def onlyInDeathDoesDutyEnd : Stratagem where
  id := "only-in-death-does-duty-end"
  name := "Only in Death Does Duty End"
  cost := 2
  phase := .fight
  condition := "Fight phase, just after an enemy unit has selected its targets"
  effect :=
    "Until the end of the phase, each time a model in your unit is destroyed, if that model " ++
    "has not fought this phase, do not remove it from play. The destroyed model can fight " ++
    "after the attacking unit has finished making its attacks, and is then removed."
  faction := some faction
  detachment := some "Gladius Task Force"
  turn := .opponentTurn

def honourTheChapter : Stratagem where
  id := "honour-the-chapter"
  name := "Honour the Chapter"
  phase := .fight
  condition := "Fight phase"
  effect :=
    "Until the end of the phase, melee weapons equipped by models in your unit have the " ++
    "[LANCE] ability. If your unit is under the effects of the Assault Doctrine, improve the " ++
    "Armour Penetration characteristic of such weapons by 1 as well."
  faction := some faction
  detachment := some "Gladius Task Force"
  turn := .yourTurn

def adaptiveStrategy : Stratagem where
  id := "adaptive-strategy"
  name := "Adaptive Strategy"
  phase := .command
  condition := "Your Command phase"
  effect :=
    "Select the Devastator Doctrine, Tactical Doctrine or Assault Doctrine. Until the start " ++
    "of your next Command phase, that Combat Doctrine is active for that unit instead of any " ++
    "other Combat Doctrine that is active for your army, even if you have already selected " ++
    "that doctrine this battle."
  faction := some faction
  detachment := some "Gladius Task Force"
  turn := .yourTurn

def stormOfFire : Stratagem where
  id := "storm-of-fire"
  name := "Storm of Fire"
  phase := .shoot
  condition := "Your Shooting phase"
  effect :=
    "Until the end of the phase, ranged weapons equipped by models in your unit have the " ++
    "[IGNORES COVER] ability. If your unit is under the effects of the Devastator Doctrine, " ++
    "improve the Armour Penetration characteristic of such weapons by 1 as well."
  faction := some faction
  detachment := some "Gladius Task Force"
  turn := .yourTurn

def squadTactics : Stratagem where
  id := "squad-tactics"
  name := "Squad Tactics"
  phase := .move
  condition :=
    "Your opponent's Movement phase, just after an enemy unit ends a Normal, Advance or Fall " ++
    "Back move"
  effect :=
    "Your unit can make a Normal move of up to D6\", or a Normal move of up to 6\" instead if " ++
    "it is under the effects of the Tactical Doctrine. You cannot select a unit within " ++
    "Engagement Range of any enemy units."
  faction := some faction
  detachment := some "Gladius Task Force"
  turn := .opponentTurn

def stratagems : List Stratagem :=
  [armourOfContempt, onlyInDeathDoesDutyEnd, honourTheChapter, adaptiveStrategy, stormOfFire,
    squadTactics]

end Skirmish.Bundled.AdeptusAstartes
