import Skirmish.Volley.Log
import Skirmish.Volley.Threshold

/-!
# The phases of a volley

Attacks are counted, rolled to hit, rolled to wound, saved against, turned into
damage, and shrugged off point by point.  Each phase takes the numbers that the
one before it left, rolls its dice in order, and returns its own numbers with
its log.
-/

namespace Skirmish

variable {σ : Type} [DiceSource σ]

/-! ## Attacks -/

/-- The number of attacks of `models` models, each of which rolls the expression
`attacks` and adds its modifiers, with a bonus for the whole unit. -/
def countAttacks (attacks : String) (models modifier rapidFire blast : Int) :
    Roll σ (Int × PhaseLog) := do
  let bases ← Roll.times models.toNat (rollTextOr attacks 0 "attacks")
  let perModel := bases.map fun base => max 0 (base + modifier + rapidFire)
  let bonus := if 0 < models then blast else 0
  let total := max 0 (sumOf perModel + bonus)
  Roll.writable [modifier, rapidFire, bonus, models, total]
  Roll.note "Attacks" s!"{models} model(s) x {attacks} -> {total} attacks"
  return (total,
    { phase := .attacks
      rolls := if mentionsDice attacks then bases.map fun base => { value := base } else []
      successes := total
      notes := remarks [
        (modifier != 0, s!"A modifier {signedText modifier} per model"),
        (rapidFire != 0, s!"Rapid Fire +{rapidFire} per model"),
        (blast != 0 && 0 < models, s!"Blast +{blast}")] })

/-! ## Hits and wounds -/

/-- A face passes a test when it is not a one and reaches the threshold or the
threshold of critical successes. -/
def passes (threshold critical face : Int) : Bool :=
  face != 1 && (critical ≤ face || threshold ≤ face)

/-- Roll a test that is critical only when it succeeds. -/
def rollPass (threshold critical : Int) (reroll : Reroll) : Roll σ RollRecord := do
  let record ← rollTest (passes threshold critical) reroll critical
  return { record with
    critical := record.critical && passes threshold critical record.value }

structure HitTally where
  hits : Int := 0
  autoWounds : Int := 0
  successes : Int := 0
  criticals : Int := 0
  deriving DecidableEq, Repr

/-- Count one hit roll.  A critical hit scores further hits, or wounds at
once. -/
def HitTally.count (success : Int → Bool) (sustained : Int) (lethal : Bool)
    (tally : HitTally) (record : RollRecord) : HitTally :=
  if !success record.value then
    tally
  else if !record.critical then
    { tally with successes := tally.successes + 1, hits := tally.hits + 1 }
  else
    { hits := tally.hits + sustained + if lethal then 0 else 1
      autoWounds := tally.autoWounds + if lethal then 1 else 0
      successes := tally.successes + 1
      criticals := tally.criticals + 1 }

/-- The outcome of the hit rolls: hits that still have to wound, and hits that
wounded at once. -/
structure HitOutcome where
  hits : Int
  autoWounds : Int
  log : PhaseLog

def rollHits (attacks threshold critical : Int) (reroll : Reroll) (torrent : Bool)
    (sustained : Int) (lethal : Bool) : Roll σ HitOutcome := do
  if torrent then
    Roll.writable [attacks]
    Roll.note "Hit" s!"Torrent: {attacks} automatic hits"
    return ⟨attacks, 0,
      { phase := .hit, threshold, reroll, successes := attacks
        notes := ["Torrent: hits automatically"] }⟩
  let records ← Roll.times attacks.toNat (rollPass threshold critical reroll)
  let tally := records.foldl (HitTally.count (passes threshold critical) sustained lethal) {}
  Roll.writable [attacks, threshold, critical, sustained * tally.criticals]
  Roll.note "Hit" (s!"{attacks} dice at {threshold}+ (crit {critical}+): " ++
    s!"{tally.successes} hits, {tally.criticals} crits")
  return ⟨tally.hits, tally.autoWounds,
    { phase := .hit, threshold, reroll, rolls := records
      successes := tally.successes, criticals := tally.criticals
      notes := remarks [
        (sustained != 0 && tally.criticals != 0,
          s!"Sustained Hits {sustained}: +{sustained * tally.criticals} hits"),
        (tally.autoWounds != 0, s!"Lethal Hits: {tally.autoWounds} automatic wounds")] }⟩

structure WoundTally where
  wounds : Int
  bypassing : Int := 0
  successes : Int := 0
  criticals : Int := 0
  deriving DecidableEq, Repr

/-- Count one wound roll.  A critical wound may bypass saves. -/
def WoundTally.count (success : Int → Bool) (devastating : Bool)
    (tally : WoundTally) (record : RollRecord) : WoundTally :=
  if !success record.value then
    tally
  else if !record.critical then
    { tally with successes := tally.successes + 1, wounds := tally.wounds + 1 }
  else
    { wounds := tally.wounds + if devastating then 0 else 1
      bypassing := tally.bypassing + if devastating then 1 else 0
      successes := tally.successes + 1
      criticals := tally.criticals + 1 }

/-- The outcome of the wound rolls: wounds that may be saved, and wounds that
bypass saves. -/
structure WoundOutcome where
  wounds : Int
  bypassing : Int
  log : PhaseLog

def rollWounds (hits autoWounds threshold critical : Int) (reroll : Reroll)
    (devastating : Bool) : Roll σ WoundOutcome := do
  let records ← Roll.times hits.toNat (rollPass threshold critical reroll)
  let tally := records.foldl
    (WoundTally.count (passes threshold critical) devastating) { wounds := autoWounds }
  let successes := tally.successes + autoWounds
  Roll.writable [hits, autoWounds, threshold, critical, successes]
  Roll.note "Wound" (s!"{hits} dice at {threshold}+ (crit {critical}+): " ++
    s!"{successes} wounds, {tally.criticals} crits")
  return ⟨tally.wounds, tally.bypassing,
    { phase := .wound, threshold, reroll, rolls := records
      successes, criticals := tally.criticals
      notes := remarks [
        (autoWounds != 0, s!"{autoWounds} automatic wounds from Lethal Hits"),
        (tally.bypassing != 0,
          s!"Devastating Wounds: {tally.bypassing} wounds skip saves")] }⟩

/-! ## Saves -/

def saves (threshold face : Int) : Bool :=
  face != 1 && threshold ≤ face

/-- Roll saving throws; the result is the number of wounds that were not
saved. -/
def rollSaves (wounds threshold : Int) (invulnerable : Bool) : Roll σ (Int × PhaseLog) := do
  let sort := if invulnerable then "invulnerable save" else "armour save"
  if impossible ≤ threshold then
    Roll.writable [wounds]
    Roll.note "Save" s!"{wounds} wounds, no save possible"
    return (wounds, { phase := .save, threshold, notes := [sort, "no save possible"] })
  let faces ← Roll.times wounds.toNat Roll.d6
  let saved := faces.countP fun (face : Nat) => saves threshold face
  let unsaved := faces.countP fun (face : Nat) => !saves threshold face
  Roll.writable [wounds, threshold]
  Roll.note "Save" s!"{wounds} dice at {threshold}+: {saved} saved, {unsaved} unsaved"
  return (unsaved,
    { phase := .save, threshold, successes := saved, notes := [sort]
      rolls := faces.map fun (face : Nat) => { value := face } })

/-! ## Damage -/

/-- A damage roll is made again: a one when only ones may be, and otherwise
whatever lies below the mean. -/
def rerollsDamage (reroll : Reroll) (mean : Binary64) (value : Int) : Bool :=
  match reroll with
  | .none => false
  | .granted .ones => value == 1
  | _ => Number.lt (.int value) (.float mean)

/-- Roll the damage expression once, and once more when the reroll asks for
it.  `mean` is there when the expression has dice. -/
def rollDamageOnce (damage : String) (mean : Option Binary64) (reroll : Reroll) :
    Roll σ RollRecord := do
  let value ← rollTextOr damage 1 "damage"
  match mean with
  | some mean =>
    if rerollsDamage reroll mean value then
      return { value := ← rollTextOr damage 1 "damage", replaced := some value }
    else
      return { value }
  | none => return { value }

def listText (numbers : List Int) : String :=
  "[" ++ ", ".intercalate (numbers.map toString) ++ "]"

/-- Roll the damage of each unsaved wound.  Modifiers are added to the rolled
value, and no wound does less than one point. -/
def rollDamage (instances : Int) (damage : String) (modifier melta : Int)
    (reroll : Reroll) : Roll σ (List Int × PhaseLog) := do
  let mean ←
    if mentionsDice damage && isDiceText damage then
      some <$> (meanOfText damage : Except Fault Binary64)
    else
      pure none
  let records ← Roll.times instances.toNat (rollDamageOnce damage mean reroll)
  let damages := records.map fun record => max 1 (record.value + modifier + melta)
  Roll.writable (modifier :: melta :: instances :: damages)
  Roll.note "Damage" s!"{instances} x {damage} -> {listText damages}"
  return (damages,
    { phase := .damage, reroll, rolls := records, successes := sumOf damages
      notes := remarks [
        (modifier != 0, s!"D modifier {signedText modifier}"),
        (melta != 0, s!"Melta +{melta}")] })

/-! ## Feel No Pain -/

/-- Roll for every point of damage; each face that reaches the threshold negates
one point.  The result is the damage left of each instance. -/
def rollFeelNoPain (damages : List Int) (threshold : Option Int) :
    Roll σ (List Int × PhaseLog) := do
  let log : PhaseLog := { phase := .feelNoPain, threshold }
  match threshold with
  | none => return (damages, log)
  | some needed =>
    if 6 < needed then
      return (damages, log)
    let rolled ← damages.mapM fun damage => Roll.times damage.toNat Roll.d6
    let negated (faces : List Nat) : Int := faces.countP fun (face : Nat) => needed ≤ (face : Int)
    let remaining := damages.zipWith (fun damage faces => damage - negated faces) rolled
    let successes := sumOf (rolled.map negated)
    Roll.writable [sumOf damages, needed]
    Roll.note "FNP" s!"{sumOf damages} damage at {needed}+: {successes} negated"
    return (remaining,
      { log with
        rolls := rolled.flatten.map fun (face : Nat) => { value := face }
        successes })

/-! ## Allocation -/

/-- Damage on its way through a unit: models destroyed, damage applied, and the
wounds left on the model that is being damaged. -/
structure Allocation where
  destroyed : Int
  applied : Int
  remaining : Int
  deriving DecidableEq, Repr

/-- Allocate one instance of damage to the current model.  What exceeds its
wounds is lost. -/
def Allocation.take (wounds models : Int) (allocation : Allocation) (damage : Int) :
    Allocation :=
  if models ≤ allocation.destroyed then
    allocation
  else
    let dealt := min damage allocation.remaining
    let left := allocation.remaining - dealt
    if left ≤ 0 then
      ⟨allocation.destroyed + 1, allocation.applied + dealt, wounds⟩
    else
      ⟨allocation.destroyed, allocation.applied + dealt, left⟩

def allocate (damages : List Int) (wounds models : Int) : Allocation :=
  damages.foldl (Allocation.take wounds models) ⟨0, 0, wounds⟩

end Skirmish
