import Skirmish.Proofs.Combat.Balance
import Skirmish.Proofs.Combat.Resemblance
import Skirmish.Proofs.Combat.Written
import Skirmish.Proofs.Volley.Monotone

/-!
# Combats with other characteristics

Rules cannot see the strength and the armour penetration of a weapon, nor the toughness and
the saves of the target.  So combats that differ in these only are evaluated alike, and the
ledgers that they are merged from turn a higher base into a number that is no lower.  From
the same dice such combats then part in the thresholds of their wounds and saves only.
-/

namespace Skirmish

/-! ## Characteristics -/

/-- The characteristics that decide about wounds and saves: those of the weapon, and those
that the first model of the target sets against them. -/
structure Characteristics where
  strength : Int
  armourPenetration : Int
  toughness : Int
  save : Int
  invulnerable : Option Int

/-- The characteristics that a combat is resolved with. -/
def Encounter.characteristics (encounter : Encounter) : Characteristics where
  strength := encounter.weapon.strength
  armourPenetration := encounter.weapon.armourPenetration
  toughness := encounter.defender.leadProfile.toughness
  save := encounter.defender.leadProfile.save
  invulnerable := encounter.defender.leadProfile.invulnerable

def ModelProfile.withCharacteristics (changed : Characteristics) (model : ModelProfile) :
    ModelProfile :=
  { model with
    toughness := changed.toughness
    save := changed.save
    invulnerable := changed.invulnerable }

/-- The combat with other characteristics of the weapon and of the target's first model. -/
def Encounter.withCharacteristics (changed : Characteristics) (encounter : Encounter) :
    Encounter :=
  { encounter with
    weapon := { encounter.weapon with
      strength := changed.strength
      armourPenetration := changed.armourPenetration }
    defender := { encounter.defender with
      models := encounter.defender.models.modifyHead (ModelProfile.withCharacteristics changed) } }

/-- The combats differ in such characteristics only, if at all. -/
def Encounter.SameApartFromCharacteristics (encounter other : Encounter) : Prop :=
  ∃ changed, other = encounter.withCharacteristics changed

/-- The second characteristics make it no harder to wound. -/
structure Characteristics.WoundsNoLess (own other : Characteristics) : Prop where
  strength : own.strength ≤ other.strength
  toughness : other.toughness ≤ own.toughness

/-- The second characteristics leave it as hard to wound and make it no easier to save. -/
structure Characteristics.SavesNoMore (own other : Characteristics) : Prop where
  strength : own.strength = other.strength
  toughness : own.toughness = other.toughness
  armourPenetration : other.armourPenetration ≤ own.armourPenetration
  save : own.save ≤ other.save
  invulnerable : NoBetter own.invulnerable other.invulnerable

variable {encounter other : Encounter}

/-- Rules cannot tell combats apart by such characteristics. -/
theorem Encounter.SameApartFromCharacteristics.resembles
    (same : encounter.SameApartFromCharacteristics other) (role : Role) :
    (encounter.view role).Resembles (other.view role) := by
  obtain ⟨changed, rfl⟩ := same
  constructor
  · rfl
  · rfl
  · cases role <;> rfl
  · cases role <;> rfl
  · intro leaf board
    cases role <;> cases leaf <;> rfl

/-! ## Thresholds of saves -/

theorem exists_bestThreshold_le {thresholds : List (Option Int)} {n : Int}
    (member : some n ∈ thresholds) : ∃ best ∈ bestThreshold thresholds, best ≤ n := by
  unfold bestThreshold
  have listed : n ∈ thresholds.filterMap id := List.mem_filterMap.mpr ⟨some n, member, rfl⟩
  cases found : (thresholds.filterMap id).min? with
  | none =>
      rw [List.min?_eq_none_iff.mp found] at listed
      exact absurd listed List.not_mem_nil
  | some best => exact ⟨best, rfl, (List.min?_eq_some_iff.mp found).2 n listed⟩

theorem NoBetter.bestThreshold {threshold worse : Option Int} (noBetter : NoBetter threshold worse)
    (granted : Option Int) :
    NoBetter (bestThreshold [threshold, granted]) (bestThreshold [worse, granted]) := by
  intro n found
  have listed := (List.min?_eq_some_iff.mp found).1
  obtain ⟨candidate, member, rfl⟩ := List.mem_filterMap.mp listed
  rcases List.mem_cons.mp member with isWorse | isGranted
  · obtain ⟨m, isThreshold, le⟩ := noBetter n isWorse.symm
    obtain ⟨best, isBest, bestLe⟩ := exists_bestThreshold_le
      (List.mem_cons.mpr (.inl isThreshold.symm) : some m ∈ [threshold, granted])
    exact ⟨best, isBest, Int.le_trans bestLe le⟩
  · exact exists_bestThreshold_le (List.mem_cons_of_mem _ isGranted)

/-! ## Numbers -/

/-- The combats have the same numbers for their attacks and hits, and for their wounds but
for strength and toughness. -/
structure CombatNumbers.HitAlike (numbers other : CombatNumbers) : Prop where
  keywords : numbers.keywords = other.keywords
  hit : numbers.hit = other.hit
  wound : numbers.wound = other.wound
  attacksModifier : numbers.attacksModifier = other.attacksModifier
  criticalHit : numbers.criticalHit = other.criticalHit
  criticalWound : numbers.criticalWound = other.criticalWound
  hitReroll : numbers.hitReroll = other.hitReroll
  woundReroll : numbers.woundReroll = other.woundReroll

namespace Merged

variable {attacker attackerOther defender defenderOther : Board} {view viewOther : View}
  {numbers numbersOther : CombatNumbers}

theorem hitAlike (same : encounter.SameApartFromCharacteristics other)
    (merged : Merged encounter attacker defender (encounter.view .attacker) numbers)
    (mergedOther : Merged other attackerOther defenderOther (other.view .attacker) numbersOther)
    (attackers : attacker.Retraced attackerOther) (defenders : defender.Retraced defenderOther) :
    numbers.HitAlike numbersOther := by
  obtain ⟨changed, rfl⟩ := same
  obtain ⟨_, rfl⟩ := attackers
  obtain ⟨_, rfl⟩ := defenders
  have keywords := ok_unique merged.keywords mergedOther.keywords
  have hit := mergedOther.hit
  have wound := mergedOther.wound
  have attacksModifier := mergedOther.attacksModifier
  have criticalWound := mergedOther.criticalWound
  rw [← keywords] at hit wound attacksModifier criticalWound
  exact {
    keywords
    hit := made_unique merged.hit hit
    wound := made_unique merged.wound wound
    attacksModifier := ok_unique merged.attacksModifier attacksModifier
    criticalHit := ok_unique merged.criticalHit mergedOther.criticalHit
    criticalWound := made_unique merged.criticalWound criticalWound
    hitReroll := merged.hitReroll.trans mergedOther.hitReroll.symm
    woundReroll := by rw [merged.woundReroll, mergedOther.woundReroll, keywords] }

variable (merged : Merged encounter attacker defender view numbers)
  (mergedOther : Merged other attackerOther defenderOther viewOther numbersOther)

include merged mergedOther

theorem strength_mono (attackers : attacker.Retraced attackerOther)
    (written : attacker.ledger.AllEntries fun _ entry => entry.IsWritten)
    (le : encounter.characteristics.strength ≤ other.characteristics.strength) :
    numbers.strength ≤ numbersOther.strength := by
  obtain ⟨_, rfl⟩ := attackers
  exact Ledger.applyInt_mono (written "S") le merged.strength mergedOther.strength

theorem armourPenetration_mono (attackers : attacker.Retraced attackerOther)
    (written : attacker.ledger.AllEntries fun _ entry => entry.IsWritten)
    (le : encounter.characteristics.armourPenetration ≤
      other.characteristics.armourPenetration) :
    numbers.armourPenetration ≤ numbersOther.armourPenetration := by
  obtain ⟨_, rfl⟩ := attackers
  obtain ⟨value, applied, reached⟩ := merged.armourPenetration
  obtain ⟨valueOther, appliedOther, reachedOther⟩ := mergedOther.armourPenetration
  have mono : value ≤ valueOther := Ledger.applyInt_mono (written "AP") le applied appliedOther
  omega

theorem toughness_mono (defenders : defender.Retraced defenderOther)
    (written : defender.ledger.AllEntries fun _ entry => entry.IsWritten)
    (le : encounter.characteristics.toughness ≤ other.characteristics.toughness) :
    numbers.toughness ≤ numbersOther.toughness := by
  obtain ⟨_, rfl⟩ := defenders
  obtain ⟨value, applied, reached⟩ := merged.toughness
  obtain ⟨valueOther, appliedOther, reachedOther⟩ := mergedOther.toughness
  have mono : value ≤ valueOther := Ledger.applyInt_mono (written "T") le applied appliedOther
  omega

theorem save_mono (defenders : defender.Retraced defenderOther)
    (written : defender.ledger.AllEntries fun _ entry => entry.IsWritten)
    (le : encounter.characteristics.save ≤ other.characteristics.save) :
    numbers.save ≤ numbersOther.save := by
  obtain ⟨_, rfl⟩ := defenders
  exact Ledger.applyInt_mono (written "SV") le merged.save mergedOther.save

theorem invulnerable_mono (defenders : defender.Retraced defenderOther)
    (noBetter : NoBetter encounter.characteristics.invulnerable
      other.characteristics.invulnerable) :
    NoBetter numbers.invulnerable numbersOther.invulnerable := by
  obtain ⟨_, rfl⟩ := defenders
  obtain ⟨granted, found, best⟩ := merged.invulnerable
  obtain ⟨grantedOther, foundOther, bestOther⟩ := mergedOther.invulnerable
  obtain rfl := ok_unique found foundOther
  rw [best, bestOther]
  exact noBetter.bestThreshold granted

end Merged

/-! ## Preparation -/

/-- The numbers that a combat's characteristics come to. -/
def CombatNumbers.characteristics (numbers : CombatNumbers) : Characteristics where
  strength := numbers.strength
  armourPenetration := numbers.armourPenetration
  toughness := numbers.toughness
  save := numbers.save
  invulnerable := numbers.invulnerable

theorem Side.Evaluates.resembling {side : Side} {view viewOther : View} {rules : List Rule}
    (alike : view.Resembles viewOther) (evaluates : side.Evaluates viewOther rules) :
    side.Evaluates view rules := by
  unfold Evaluates at evaluates ⊢
  rw [Rule.evaluateAll_resembling alike]
  exact evaluates

section

variable {attackerRules defenderRules : List Rule} {trace traceOther : Trace}
  {combat combatOther : PreparedCombat}
  (same : encounter.SameApartFromCharacteristics other)
  (prepared : (prepare encounter attackerRules defenderRules trace).1 = .ok combat)
  (preparedOther : (prepare other attackerRules defenderRules traceOther).1 = .ok combatOther)

include same prepared preparedOther

/-- The rules of both sides write the same on the boards of both combats. -/
theorem retraced_of_prepare :
    combat.attacker.board.Retraced combatOther.attacker.board ∧
      combat.defender.board.Retraced combatOther.defender.board := by
  obtain ⟨attacker, defender⟩ := evaluates_of_prepare prepared
  obtain ⟨attackerOther, defenderOther⟩ := evaluates_of_prepare preparedOther
  exact ⟨(attacker.unique (attackerOther.resembling (same.resembles .attacker))).2,
    (defender.unique (defenderOther.resembling (same.resembles .defender))).2⟩

theorem hitAlike_of_prepare : combat.numbers.HitAlike combatOther.numbers := by
  obtain ⟨attackers, defenders⟩ := retraced_of_prepare same prepared preparedOther
  exact Merged.hitAlike same (.of_mergeNumbers (merged_of_prepare prepared))
    (.of_mergeNumbers (merged_of_prepare preparedOther)) attackers defenders

/-- Whatever the rules write, what is no harder to wound stays so. -/
theorem woundsNoLess_of_prepare
    (woundsNoLess : encounter.characteristics.WoundsNoLess other.characteristics) :
    combat.numbers.characteristics.WoundsNoLess combatOther.numbers.characteristics := by
  obtain ⟨attackers, defenders⟩ := retraced_of_prepare same prepared preparedOther
  have written := (evaluates_of_prepare prepared).1.allWritten
  have writtenOther := (evaluates_of_prepare preparedOther).2.allWritten
  have merged := Merged.of_mergeNumbers (merged_of_prepare prepared)
  have mergedOther := Merged.of_mergeNumbers (merged_of_prepare preparedOther)
  constructor
  · exact merged.strength_mono mergedOther attackers written woundsNoLess.strength
  · exact mergedOther.toughness_mono merged defenders.symm writtenOther woundsNoLess.toughness

theorem savesNoMore_of_prepare
    (savesNoMore : encounter.characteristics.SavesNoMore other.characteristics) :
    combat.numbers.characteristics.SavesNoMore combatOther.numbers.characteristics := by
  obtain ⟨attackers, defenders⟩ := retraced_of_prepare same prepared preparedOther
  obtain ⟨attacker, defender⟩ := evaluates_of_prepare prepared
  obtain ⟨attackerOther, defenderOther⟩ := evaluates_of_prepare preparedOther
  have merged := Merged.of_mergeNumbers (merged_of_prepare prepared)
  have mergedOther := Merged.of_mergeNumbers (merged_of_prepare preparedOther)
  constructor
  · apply Int.le_antisymm
    · exact merged.strength_mono mergedOther attackers attacker.allWritten
        (le_of_eq savesNoMore.strength)
    · exact mergedOther.strength_mono merged attackers.symm attackerOther.allWritten
        (ge_of_eq savesNoMore.strength)
  · apply Int.le_antisymm
    · exact merged.toughness_mono mergedOther defenders defender.allWritten
        (le_of_eq savesNoMore.toughness)
    · exact mergedOther.toughness_mono merged defenders.symm defenderOther.allWritten
        (ge_of_eq savesNoMore.toughness)
  · exact mergedOther.armourPenetration_mono merged attackers.symm attackerOther.allWritten
      savesNoMore.armourPenetration
  · exact merged.save_mono mergedOther defenders defender.allWritten savesNoMore.save
  · exact merged.invulnerable_mono mergedOther defenders savesNoMore.invulnerable

end

/-! ## Attacks -/

section

variable {σ : Type} [DiceSource σ] {numbers numbersOther : CombatNumbers}

theorem agree_attackPhase (same : encounter.SameApartFromCharacteristics other)
    (alike : numbers.HitAlike numbersOther) :
    Agree Table.Retraced (attackPhase encounter numbers : Roll σ (Int × PhaseLog))
      (attackPhase other numbersOther) := by
  obtain ⟨changed, rfl⟩ := same
  unfold attackPhase
  rw [← alike.keywords, ← alike.attacksModifier]
  exact agree_countAttacks Table.parallel_retraced _ _ _ _ _

theorem agree_hitPhase (same : encounter.SameApartFromCharacteristics other)
    (alike : numbers.HitAlike numbersOther) (attacks : Int) :
    Agree Table.Retraced (hitPhase encounter numbers attacks : Roll σ HitOutcome)
      (hitPhase other numbersOther attacks) := by
  obtain ⟨changed, rfl⟩ := same
  unfold hitPhase
  rw [← alike.keywords, ← alike.hit, ← alike.criticalHit, ← alike.hitReroll]
  exact agree_rollHits Table.parallel_retraced _ _ _ _ _ _ _

theorem agree_woundPhase (alike : numbers.HitAlike numbersOther)
    (strength : numbers.strength = numbersOther.strength)
    (toughness : numbers.toughness = numbersOther.toughness) (hits : HitOutcome) :
    Agree Table.Retraced (woundPhase numbers hits : Roll σ WoundOutcome)
      (woundPhase numbersOther hits) := by
  unfold woundPhase
  rw [← alike.keywords, ← alike.wound, ← alike.criticalWound, ← alike.woundReroll, ← strength,
    ← toughness]
  exact agree_rollWounds Table.parallel_retraced _ _ _ _ _ _

end

variable {σ : Type} [DiceSource σ] {start final finalOther : Table σ}
  {attackerRules defenderRules : List Rule} {result resultOther : AttackResult}

namespace AttackRun

variable (run : AttackRun encounter attackerRules defenderRules start result final)
  (runOther : AttackRun other attackerRules defenderRules start resultOther finalOther)
  (same : encounter.SameApartFromCharacteristics other)

include run runOther same

/-- From the same dice both combats score the same hits, and are left with the same dice. -/
theorem hits_alike :
    run.hits = runOther.hits ∧ run.afterHits.Retraced runOther.afterHits := by
  have alike := hitAlike_of_prepare same run.prepared runOther.prepared
  obtain ⟨sameAttacks, afterAttacks⟩ := (agree_attackPhase same alike).unique
    (run.ready.both runOther.ready) run.ranAttacks runOther.ranAttacks
  have ranHits := runOther.ranHits
  rw [← sameAttacks] at ranHits
  exact (agree_hitPhase same alike _).unique afterAttacks run.ranHits ranHits

theorem summary_hits_eq : result.summary.hits = resultOther.summary.hits := by
  have alike := hitAlike_of_prepare same run.prepared runOther.prepared
  have sameHits := (run.hits_alike runOther same).1
  rw [run.summary, runOther.summary, sameHits, alike.keywords]

theorem wounds_alike
    (savesNoMore : encounter.characteristics.SavesNoMore other.characteristics) :
    run.wounds = runOther.wounds ∧ run.afterWounds.Retraced runOther.afterWounds := by
  have alike := hitAlike_of_prepare same run.prepared runOther.prepared
  have numbers := savesNoMore_of_prepare same run.prepared runOther.prepared savesNoMore
  obtain ⟨sameHits, afterHits⟩ := run.hits_alike runOther same
  have ranWounds := runOther.ranWounds
  rw [← sameHits] at ranWounds
  exact (agree_woundPhase alike numbers.strength numbers.toughness _).unique afterHits
    run.ranWounds ranWounds

theorem summary_wounds_mono
    (woundsNoLess : encounter.characteristics.WoundsNoLess other.characteristics)
    (blind : result.wounds.reroll ≠ .granted .failed) :
    result.summary.wounds ≤ resultOther.summary.wounds := by
  have alike := hitAlike_of_prepare same run.prepared runOther.prepared
  have numbers := woundsNoLess_of_prepare same run.prepared runOther.prepared woundsNoLess
  obtain ⟨sameHits, afterHits⟩ := run.hits_alike runOther same
  have ranWounds := runOther.ranWounds
  unfold woundPhase at ranWounds
  rw [← sameHits, ← alike.keywords, ← alike.wound, ← alike.criticalWound, ← alike.woundReroll]
    at ranWounds
  have easier := clampThreshold_mono run.combat.numbers.wound
    (woundThreshold_anti numbers.strength numbers.toughness)
  rw [run.testLogs.2.1, reroll_rollWounds run.ranWounds] at blind
  rw [run.summary, runOther.summary]
  exact successes_rollWounds_mono easier blind afterHits run.ranWounds ranWounds

theorem summary_unsaved_mono
    (savesNoMore : encounter.characteristics.SavesNoMore other.characteristics) :
    result.summary.unsaved ≤ resultOther.summary.unsaved := by
  have numbers := savesNoMore_of_prepare same run.prepared runOther.prepared savesNoMore
  obtain ⟨sameWounds, afterWounds⟩ := run.wounds_alike runOther same savesNoMore
  have ranSaves := runOther.ranSaves
  unfold savePhase at ranSaves
  rw [← sameWounds] at ranSaves
  have harder := saveThreshold_mono numbers.save numbers.armourPenetration numbers.invulnerable
  have unsaved : run.saves.1 ≤ runOther.saves.1 :=
    unsaved_rollSaves_mono run.wounds_nonneg harder afterWounds run.ranSaves ranSaves
  rw [run.summary, runOther.summary, ← sameWounds]
  exact Int.add_le_add_right unsaved _

end AttackRun

/-- Characteristics act in the right direction.  Let two combats that differ in them only be
resolved from the same dice.  Where failed wound rolls are not made again, more strength
against less toughness never wounds less.  A lower armour penetration against worse saves
never leaves fewer wounds unsaved.  What comes before stays the same. -/
theorem resolveAttack_mono_characteristics (same : encounter.SameApartFromCharacteristics other)
    (returns : Returns (resolveAttack encounter attackerRules defenderRules) start result final)
    (returnsOther : Returns (resolveAttack other attackerRules defenderRules) start resultOther
      finalOther) :
    (encounter.characteristics.WoundsNoLess other.characteristics →
      result.wounds.reroll ≠ .granted .failed →
      result.summary.hits = resultOther.summary.hits ∧
        result.summary.wounds ≤ resultOther.summary.wounds) ∧
    (encounter.characteristics.SavesNoMore other.characteristics →
      result.summary.wounds = resultOther.summary.wounds ∧
        result.summary.unsaved ≤ resultOther.summary.unsaved) := by
  obtain ⟨run⟩ := AttackRun.of_returns returns
  obtain ⟨runOther⟩ := AttackRun.of_returns returnsOther
  constructor
  · intro woundsNoLess blind
    exact ⟨run.summary_hits_eq runOther same,
      run.summary_wounds_mono runOther same woundsNoLess blind⟩
  · intro savesNoMore
    have sameWounds := (run.wounds_alike runOther same savesNoMore).1
    refine ⟨?_, run.summary_unsaved_mono runOther same savesNoMore⟩
    rw [run.summary, runOther.summary, sameWounds]

/-- Four shots at boyz, who have an armour save and a weak invulnerable save. -/
def fourShots : Encounter where
  attacker := { id := "hunters", armyId := "wolves" }
  defender := { id := "boyz", armyId := "orks"
                models := [{ save := 4, invulnerable := some 6 }, {}] }
  weapon := { name := "Boltgun", range := 24, attacks := "4", strength := 3 }

/-- The dice rolled for the four shots. -/
def fourShotsTable : Table Script where
  dice := { faces := #[3, 4, 5, 2, 4, 5, 6, 4, 3, 2] }

/-- Stronger shots at frailer boyz. -/
def strongShots : Encounter :=
  fourShots.withCharacteristics { fourShots.characteristics with strength := 4, toughness := 3 }

/-- Shots that pierce a worse armour, behind which there is no invulnerable save. -/
def piercingShots : Encounter :=
  fourShots.withCharacteristics
    { fourShots.characteristics with armourPenetration := -2, save := 5, invulnerable := none }

/-- Three of the shots hit.  The strong ones wound once more, and no dice are rolled against
the piercing ones, so that both wounds stay unsaved. -/
theorem fourShots_mono_characteristics :
    ∃ (result strong piercing : AttackResult) (final finalStrong finalPiercing : Table Script),
      Returns (resolveAttack fourShots [] []) fourShotsTable result final ∧
      Returns (resolveAttack strongShots [] []) fourShotsTable strong finalStrong ∧
      Returns (resolveAttack piercingShots [] []) fourShotsTable piercing finalPiercing ∧
      result.summary = ⟨4, 3, 2, 1, 1, 1, 1, 1⟩ ∧
      (strong.summary.hits, strong.summary.wounds) = (3, 3) ∧
      (piercing.summary.wounds, piercing.summary.unsaved) = (2, 2) ∧
      (result.summary.hits = strong.summary.hits ∧
        result.summary.wounds ≤ strong.summary.wounds) ∧
      (result.summary.wounds = piercing.summary.wounds ∧
        result.summary.unsaved ≤ piercing.summary.unsaved) := by
  have ran : (outcomeOf (resolveAttack fourShots [] []) fourShotsTable).1.toOption.map
      (fun result => (result.summary, result.wounds.reroll)) =
      some (⟨4, 3, 2, 1, 1, 1, 1, 1⟩, .none) := by
    decide +kernel
  have ranStrong : (outcomeOf (resolveAttack strongShots [] []) fourShotsTable).1.toOption.map
      (fun result => (result.summary.hits, result.summary.wounds)) = some (3, 3) := by
    decide +kernel
  have ranPiercing : (outcomeOf (resolveAttack piercingShots [] [])
      fourShotsTable).1.toOption.map
      (fun result => (result.summary.wounds, result.summary.unsaved)) = some (2, 2) := by
    decide +kernel
  obtain ⟨result, final, returns, shown⟩ := exists_returns_of_shown ran
  obtain ⟨strong, finalStrong, returnsStrong, shownStrong⟩ := exists_returns_of_shown ranStrong
  obtain ⟨piercing, finalPiercing, returnsPiercing, shownPiercing⟩ :=
    exists_returns_of_shown ranPiercing
  obtain ⟨summary, reroll⟩ := Prod.mk.inj shown
  have blind : result.wounds.reroll ≠ .granted .failed := by
    rw [reroll]
    nofun
  have wounds := (resolveAttack_mono_characteristics ⟨_, rfl⟩ returns returnsStrong).1
    ⟨by decide, by decide⟩ blind
  have saves := (resolveAttack_mono_characteristics ⟨_, rfl⟩ returns returnsPiercing).2
    ⟨by decide, by decide, by decide, by decide, nofun⟩
  exact ⟨result, strong, piercing, final, finalStrong, finalPiercing, returns, returnsStrong,
    returnsPiercing, summary, shownStrong, shownPiercing, wounds, saves⟩

end Skirmish
