import Skirmish.Rulebook.Rule
import Skirmish.Rulebook.Stratagem

/-!
# Death Guard

The rules and stratagems of the Death Guard.
-/

namespace Skirmish.Bundled.DeathGuard

def faction : String := "Death Guard"

/-! ## Rules -/

def nurglesGift : Rule where
  id := "nurgles-gift"
  name := "Nurgle's Gift"
  description :=
    "At the start of the battle, select one Plague. Enemy units within Contagion Range of " ++
    "your army are Afflicted and suffer that Plague's effect."
  faction := faction
  scope := .army
  trigger := { phase := .one .startOfBattle, turn := .own, limit := .oncePerBattle }
  body := .choice {
      id := "plague"
      prompt := "Select your army's Plague"
      options := [
        { value := "skullsquirm-blight", label := "Skullsquirm Blight" },
        { value := "rattlejoint-ague", label := "Rattlejoint Ague",
          blocks := [.guarded (.targetCategory ["afflicted"])
              [.perform [.known (.modWeaponStat .armourPenetration (-1)) .all []]]] },
        { value := "scabrous-soulrot", label := "Scabrous Soulrot" }] }

def disgustinglyResilient : Rule where
  id := "disgustingly-resilient"
  name := "Disgustingly Resilient"
  description :=
    "Each time an attack with a Strength greater than this unit's Toughness is allocated, " ++
    "subtract 1 from the Wound roll."
  faction := faction
  condition := .combatRole .defender
  body := .passive [.perform [.known (.modWoundAgainst (-1)) .all []]]

def rules : List Rule :=
  [nurglesGift, disgustinglyResilient]

/-! ## Stratagems -/

def blightedLand : Stratagem where
  id := "blighted-land"
  name := "Blighted Land"
  cost := 2
  phase := .move
  condition := "End of your Movement phase"
  effect :=
    "Select one terrain feature within 24\" of and visible to one DEATH GUARD VEHICLE unit " ++
    "from your army. Until the start of your next turn, enemy units are Afflicted while they " ++
    "are within 3\" of that terrain feature."
  faction := some faction
  detachment := some "Mortarion's Hammer"
  turn := .yourTurn

def relentlessGrind : Stratagem where
  id := "relentless-grind"
  name := "Relentless Grind"
  phase := .moveOrCharge
  condition := "Your Movement phase or your Charge phase"
  effect :=
    "Select one DEATH GUARD VEHICLE unit from your army that has not been selected to move or " ++
    "charge this phase. Until the end of the phase, each time your unit makes a Normal, " ++
    "Advance or Charge move, it can move horizontally through terrain features."
  faction := some faction
  detachment := some "Mortarion's Hammer"
  turn := .yourTurn

def drawnToDespair : Stratagem where
  id := "drawn-to-despair"
  name := "Drawn to Despair"
  phase := .shoot
  condition := "Your Shooting phase"
  effect :=
    "Select one DEATH GUARD unit from your army that has not been selected to shoot this " ++
    "phase. Until the end of the phase, each time a model in your unit makes an attack that " ++
    "targets a visible enemy unit (excluding AIRCRAFT) within your opponent's deployment " ++
    "zone, you can re-roll the Hit roll."
  faction := some faction
  detachment := some "Mortarion's Hammer"
  turn := .yourTurn

def fontOfFilth : Stratagem where
  id := "font-of-filth"
  name := "Font of Filth"
  phase := .shoot
  condition := "Your Shooting phase"
  effect :=
    "Select one DEATH GUARD VEHICLE unit from your army that has not been selected to shoot " ++
    "this phase. Until the end of the phase, ranged weapons equipped by models in your unit " ++
    "have the [ASSAULT] ability."
  faction := some faction
  detachment := some "Mortarion's Hammer"
  turn := .yourTurn

def eyestingerStorm : Stratagem where
  id := "eyestinger-storm"
  name := "Eyestinger Storm"
  phase := .command
  condition := "Your opponent's Command phase"
  effect :=
    "Select one DEATH GUARD VEHICLE unit from your army, then select one objective marker " ++
    "visible to one or more models in your unit. Each Afflicted enemy unit within range of " ++
    "that objective marker must take a Battle-shock test."
  faction := some faction
  detachment := some "Mortarion's Hammer"
  turn := .opponentTurn

def stinkingMire : Stratagem where
  id := "stinking-mire"
  name := "Stinking Mire"
  phase := .charge
  condition := "Start of your opponent's Charge phase"
  effect :=
    "Select one DEATH GUARD VEHICLE unit from your army. Until the end of the phase, each " ++
    "time an enemy unit selects your unit as the target of a charge, subtract 2 from the " ++
    "Charge roll."
  faction := some faction
  detachment := some "Mortarion's Hammer"
  turn := .opponentTurn

def stratagems : List Stratagem :=
  [blightedLand, relentlessGrind, drawnToDespair, fontOfFilth, eyestingerStorm, stinkingMire]

end Skirmish.Bundled.DeathGuard
