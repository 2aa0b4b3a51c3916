import Skirmish.Rulebook.Rule
import Skirmish.Rulebook.Stratagem

/-!
# Core

The rules and stratagems that are open to every army.
-/

namespace Skirmish.Bundled.Core

/-! ## Rules -/

def stealth : Rule where
  id := "stealth"
  name := "Stealth"
  description :=
    "Each time a ranged attack is made against this unit, subtract 1 from that attack's Hit roll."
  trigger := { phase := .one .shooting }
  condition := .weaponType [.ranged]
  body := .passive [.perform [.known (.modHitAgainst (-1)) .all []]]

def benefitOfCover : Rule where
  id := "benefit-of-cover"
  name := "Benefit of Cover"
  description :=
    "Units wholly within or behind terrain add 1 to armour saving throws against ranged attacks."
  trigger := { kind := .reactive, phase := .one .shooting, turn := .opponent }
  body := .reminder

def rules : List Rule :=
  [stealth, benefitOfCover]

/-! ## Stratagems -/

def commandReroll : Stratagem where
  id := "command-reroll"
  name := "Command Re-roll"
  condition := "Any phase"
  effect :=
    "Re-roll one Hit roll, Wound roll, Damage roll, saving throw, Advance roll, Charge roll, " ++
    "Desperate Escape test, Hazardous test, or the number of attacks made with a weapon."

def grenade : Stratagem where
  id := "grenade"
  name := "Grenade"
  phase := .shoot
  condition := "Your Shooting phase"
  effect :=
    "Select one enemy unit within 8\" of and visible to a GRENADES unit from your army. Roll " ++
    "six D6: for each 4+, that enemy unit suffers 1 mortal wound."
  turn := .yourTurn

def fireOverwatch : Stratagem where
  id := "fire-overwatch"
  name := "Fire Overwatch"
  condition :=
    "Your opponent's Charge or Movement phase, just after an enemy unit is set up or when an " ++
    "enemy unit starts or ends a Normal, Advance, Fall Back or Charge move"
  effect :=
    "Select one unit from your army that is within 24\" of that enemy unit and would be " ++
    "eligible to shoot if it were your Shooting phase. That unit can shoot that enemy unit as " ++
    "if it were your Shooting phase, but when resolving those attacks, a successful " ++
    "unmodified Hit roll of 6 is required to score a hit, irrespective of the attacking " ++
    "weapon's Ballistic Skill or any modifiers."
  turn := .opponentTurn

def heroicIntervention : Stratagem where
  id := "heroic-intervention"
  name := "Heroic Intervention"
  cost := 2
  phase := .charge
  condition := "Your opponent's Charge phase, just after an enemy unit ends a Charge move"
  effect :=
    "Select one unit from your army that is within 6\" of that enemy unit and would be " ++
    "eligible to declare a charge against that enemy unit if it were your Charge phase. That " ++
    "unit from your army can now declare a charge against that enemy unit, and you resolve " ++
    "that charge as if it were your Charge phase."
  turn := .opponentTurn

def smokescreen : Stratagem where
  id := "smokescreen"
  name := "Smokescreen"
  phase := .shoot
  condition := "Your opponent's Shooting phase, just after an enemy unit has selected its targets"
  effect :=
    "Select one SMOKE unit from your army that was selected as the target of one or more of " ++
    "the attacking unit's attacks. Until the end of the phase, all models in your unit have " ++
    "the Benefit of Cover and the Stealth ability against those attacks."
  turn := .opponentTurn

def goToGround : Stratagem where
  id := "go-to-ground"
  name := "Go to Ground"
  condition := "Your opponent's Shooting phase, just after an enemy unit has selected its targets"
  effect :=
    "Select one INFANTRY unit from your army that was selected as the target of one or more " ++
    "of that attack's attacks. Until the end of the phase, all models in your unit have a 6+ " ++
    "invulnerable save and the Benefit of Cover."
  turn := .opponentTurn

def insaneBravery : Stratagem where
  id := "insane-bravery"
  name := "Insane Bravery"
  condition :=
    "Any phase, just after you have failed a Battle-shock test for a unit from your army"
  effect := "That unit is treated as having passed that test instead."

def tankShock : Stratagem where
  id := "tank-shock"
  name := "Tank Shock"
  phase := .charge
  condition := "Your Charge phase, when a VEHICLE unit from your army ends a Charge move"
  effect :=
    "Select one enemy unit within Engagement Range of that VEHICLE unit and roll one D6 for " ++
    "each model in that enemy unit: for each 5+, that enemy unit suffers 1 mortal wound (to a " ++
    "maximum of 6 mortal wounds)."
  turn := .yourTurn

def rapidIngress : Stratagem where
  id := "rapid-ingress"
  name := "Rapid Ingress"
  phase := .move
  condition := "End of your opponent's Movement phase"
  effect :=
    "Select one unit from your army that is in Reserves. Set up that unit anywhere on the " ++
    "battlefield that is more than 9\" horizontally away from all enemy models."
  turn := .opponentTurn

def epicChallenge : Stratagem where
  id := "epic-challenge"
  name := "Epic Challenge"
  phase := .fight
  condition := "Your opponent's Fight phase, just after an enemy unit has selected its targets"
  effect :=
    "Select one CHARACTER model from your army that is within Engagement Range of that enemy " ++
    "unit. Until the end of the phase, that CHARACTER model's unit is the only eligible " ++
    "target of attacks made by models in that enemy unit."
  turn := .opponentTurn

def newOrders : Stratagem where
  id := "new-orders"
  name := "New Orders"
  phase := .command
  condition := "Your Command phase"
  effect :=
    "Once per battle, discard your active Secondary Mission and select a new one from your " ++
    "Mission deck."
  roundRestriction := .secondTurnOnwards
  turn := .yourTurn

def stratagems : List Stratagem :=
  [commandReroll, grenade, fireOverwatch, heroicIntervention, smokescreen, goToGround,
    insaneBravery, tankShock, rapidIngress, epicChallenge, newOrders]

end Skirmish.Bundled.Core
