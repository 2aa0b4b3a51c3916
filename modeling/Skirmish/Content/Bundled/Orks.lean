import Skirmish.Rulebook.Rule
import Skirmish.Rulebook.Stratagem

/-!
# Orks

The rules and stratagems of the Orks.
-/

namespace Skirmish.Bundled.Orks

def faction : String := "Orks"

/-! ## Rules -/

def waaagh : Rule where
  id := "waaagh"
  name := "Waaagh!"
  description :=
    "While the Waaagh! is active, add 1 to the Strength and Attacks characteristics of melee " ++
    "weapons equipped by ORKS models, and those models have a 5+ invulnerable save."
  faction := faction
  scope := .army
  condition := .armyState ["waaagh"]
  body := .passive [.perform [
      .known (.modWeaponStat .strength 1) .all [.weaponType [.melee]],
      .known (.modWeaponStat .attacks 1) .all [.weaponType [.melee]],
      .known (.setInvulnerable 5) .all []]]

def callWaaagh : Rule where
  id := "call-waaagh"
  name := "Call the Waaagh!"
  description := "Once per battle, at the start of your Command phase, you can call a Waaagh!"
  faction := faction
  scope := .army
  trigger := { kind := .manual, phase := .one .command, turn := .own, limit := .oncePerBattle }
  condition := .not (.armyState ["waaagh"])
  body := .reminder

def getStuckIn : Rule where
  id := "get-stuck-in"
  name := "Get Stuck In"
  description :=
    "Melee weapons equipped by ORKS models from your army have the [SUSTAINED HITS 1] ability."
  faction := faction
  scope := .detachment
  condition := .weaponType [.melee]
  body := .passive [.perform [.known (.addWeaponAbility (.sustainedHits 1)) .all []]]

def kustomForceField : Rule where
  id := "kustom-force-field"
  name := "Kustom Force Field"
  description :=
    "While this model is leading a unit, models in that unit have a 4+ invulnerable save " ++
    "against ranged attacks."
  faction := faction
  trigger := { phase := .one .shooting }
  condition := .all [.weaponType [.ranged], .isLeading]
  body := .passive [.perform [.known (.setInvulnerable 4) .all []]]

def rules : List Rule :=
  [waaagh, callWaaagh, getStuckIn, kustomForceField]

/-! ## Stratagems -/

def bragginRights : Stratagem where
  id := "braggin-rights"
  name := "Braggin' Rights"
  phase := .command
  condition := "Your Command phase"
  effect :=
    "Select 2 BOYZ units from your army within 6\" of each other. Until the start of your " ++
    "next Command phase, both units count as having 10 or more models for the purposes of " ++
    "their Mob Mentality ability."
  faction := some faction
  detachment := some "Green Tide"
  turn := .yourTurn

def comeOnLadz : Stratagem where
  id := "come-on-ladz"
  name := "Come On Ladz!"
  phase := .command
  condition := "Your Command phase"
  effect :=
    "Select one BOYZ unit from your army. Return D3+2 destroyed models (excluding CHARACTER " ++
    "models) to that unit."
  faction := some faction
  detachment := some "Green Tide"
  turn := .yourTurn

def tideOfMuscle : Stratagem where
  id := "tide-of-muscle"
  name := "Tide of Muscle"
  phase := .charge
  condition :=
    "Your Charge phase, when a BOYZ unit from your army is selected to declare a charge"
  effect :=
    "Add a number equal to the current battle round number to that unit's Charge roll this turn."
  faction := some faction
  detachment := some "Green Tide"
  turn := .yourTurn

def competitiveStreak : Stratagem where
  id := "competitive-streak"
  name := "Competitive Streak"
  phase := .fight
  condition := "Your Fight phase, when a BOYZ unit from your army is selected to fight"
  effect :=
    "Until the end of the phase, improve the Armour Penetration characteristic of melee " ++
    "weapons equipped by models in that unit by 1. If that unit has 10 or more models, " ++
    "improve it by 2 instead."
  faction := some faction
  detachment := some "Green Tide"
  turn := .yourTurn

def speediestFreeks : Stratagem where
  id := "speediest-freeks"
  name := "Speediest Freeks"
  condition :=
    "Your opponent's Shooting phase or Fight phase, after an enemy unit selects its targets"
  effect :=
    "Select one SPEED FREEKS or TRUKK unit from your army that was selected as a target. " ++
    "Until the end of the phase, models in that unit have a 5+ invulnerable save, or 4+ " ++
    "invulnerable save if that unit is a VEHICLE with Toughness characteristic of 8 or less."
  faction := some faction
  detachment := some "Speed Freeks"
  detachmentAliases := ["Kult of Speed"]
  turn := .opponentTurn

def dakkastorm : Stratagem where
  id := "dakkastorm"
  name := "Dakkastorm"
  phase := .shoot
  condition := "Your Shooting phase, when a SPEED FREEKS unit from your army is selected to shoot"
  effect :=
    "Until the end of the phase, ranged weapons equipped by models in that unit have the " ++
    "[SUSTAINED HITS 1] ability. If the target is within 9\", those weapons have the " ++
    "[SUSTAINED HITS 2] ability instead."
  faction := some faction
  detachment := some "Speed Freeks"
  detachmentAliases := ["Kult of Speed"]
  turn := .yourTurn

def blitzaFire : Stratagem where
  id := "blitza-fire"
  name := "Blitza Fire"
  phase := .shoot
  condition := "Your Shooting phase, when a SPEED FREEKS unit from your army is selected to shoot"
  effect :=
    "Until the end of the phase, ranged weapons equipped by models in that unit have the " ++
    "[LETHAL HITS] ability. If the target is within 9\", attacks made with those weapons " ++
    "score Critical Hits on unmodified Hit rolls of 5+."
  faction := some faction
  detachment := some "Speed Freeks"
  detachmentAliases := ["Kult of Speed"]
  turn := .yourTurn

def fullThrottle : Stratagem where
  id := "full-throttle"
  name := "Full Throttle!"
  phase := .charge
  condition := "Your Charge phase, after a SPEED FREEKS unit from your army ends a Charge move"
  effect :=
    "Until the end of the turn, add 1 to the Wound roll for attacks made with melee weapons " ++
    "by models in that unit."
  faction := some faction
  detachment := some "Speed Freeks"
  detachmentAliases := ["Kult of Speed"]
  turn := .yourTurn

def squigFlingin : Stratagem where
  id := "squig-flingin"
  name := "Squig Flingin'"
  phase := .move
  condition :=
    "Your Movement phase, just after a SPEED FREEKS or TRUKK unit from your army ends a " ++
    "Normal, Advance or Fall Back move"
  effect :=
    "Select one enemy unit within 9\" of your unit. That enemy unit must take a Battle-shock " ++
    "test and, when doing so, subtract 1 from the result."
  faction := some faction
  detachment := some "Speed Freeks"
  detachmentAliases := ["Kult of Speed"]
  turn := .yourTurn

def moreGitzOverEre : Stratagem where
  id := "more-gitz-over-ere"
  name := "More Gitz Over 'Ere!"
  phase := .move
  condition := "Your opponent's Movement phase, after an enemy unit ends a move"
  effect :=
    "Select one SPEED FREEKS unit from your army within 9\" of that enemy unit and not within " ++
    "Engagement Range of any enemy units. That unit can make a Normal move of up to 6\"."
  faction := some faction
  detachment := some "Speed Freeks"
  detachmentAliases := ["Kult of Speed"]
  turn := .opponentTurn

def stratagems : List Stratagem :=
  [bragginRights, comeOnLadz, tideOfMuscle, competitiveStreak, speediestFreeks, dakkastorm,
    blitzaFire, fullThrottle, squigFlingin, moreGitzOverEre]

end Skirmish.Bundled.Orks
