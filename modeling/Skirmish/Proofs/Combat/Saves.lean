import Skirmish.Proofs.Combat.Characteristics
import Skirmish.Proofs.Combat.Growth

/-!
# Saves that are granted

A defender's invulnerable save and its Feel No Pain come from several sources: the printed
profile, abilities, and rules that set them.  The best source counts, but the rules are one
source only, since in a ledger the last number that is set stands for all.  So a rule that
grants a worse save takes back the better one of an earlier rule, though never a printed one
nor one of an ability.
-/

namespace Skirmish

/-- The threshold is the best of those on offer: none of them is lower, and it is one of
them. -/
structure IsBestOf (best : Option Int) (offered : Int → Prop) : Prop where
  le : ∀ {n}, offered n → ∃ threshold ∈ best, threshold ≤ n
  offered : ∀ threshold ∈ best, offered threshold

theorem isBestOf_bestThreshold {thresholds : List (Option Int)} {offered : Int → Prop}
    (lists : ∀ n, some n ∈ thresholds ↔ offered n) :
    IsBestOf (bestThreshold thresholds) offered where
  le offer := exists_bestThreshold_le ((lists _).mpr offer)
  offered threshold best := by
    have listed := (List.min?_eq_some_iff.mp best).1
    obtain ⟨candidate, member, rfl⟩ := List.mem_filterMap.mp listed
    exact (lists threshold).mp member

/-! ## Rules that set saves -/

/-- The stats of the saves that only rules set. -/
def saveStats : List String := ["INV", "FNP"]

/-- The actions that set a save, by its stat. -/
inductive Action.SetsSave : String → Int → Action → Prop
  | invulnerable (n : Int) : SetsSave "INV" n (.setInvulnerable n)
  | feelNoPain (n : Int) : SetsSave "FNP" n (.setFeelNoPain n)

theorem not_mem_saveStats {stat : String}
    (foreign : stat.toList.take 2 ∉ saveStats.map (·.toList.take 2)) : stat ∉ saveStats :=
  fun own => foreign (List.mem_map_of_mem own)

/-- No other actions write the stats of saves. -/
theorem Action.exists_setsSave {action : Action} (own : action.entry.stat ∈ saveStats) :
    ∃ n, SetsSave action.entry.stat n action := by
  cases action with
  | setInvulnerable n => exact ⟨n, .invulnerable n⟩
  | setFeelNoPain n => exact ⟨n, .feelNoPain n⟩
  | modHit | modWound | modHitAgainst | modWoundAgainst | modMove | setCriticalHit
  | setCriticalWound => simp [entry, saveStats] at own
  | modWeaponStat stat add | modDefensiveStat stat add | setDefensiveStat stat n =>
      cases stat <;> simp [entry, saveStats, Vocabulary.word] at own
  | addWeaponAbility ability | addUnitAbility ability =>
      refine (not_mem_saveStats ?_ own).elim
      rw [entry, Ability.stat, take_grant (by decide)]
      decide
  | addKeyword keyword value =>
      refine (not_mem_saveStats ?_ own).elim
      rw [entry, take_grant (by decide)]
      decide
  | reroll phase kind =>
      refine (not_mem_saveStats ?_ own).elim
      cases phase <;> cases kind <;> decide

/-- The entry was written by an action that sets the save to a number, on behalf of some
rule. -/
def Modifier.GrantsSave (entry : Modifier) (stat : String) (n : Int) : Prop :=
  ∃ action source, Action.SetsSave stat n action ∧ entry = action.modifier source

theorem Modifier.GrantsSave.value {entry : Modifier} {stat : String} {n : Int}
    (grants : entry.GrantsSave stat n) :
    entry.IsWritten ∧ entry.operation = .set ∧ entry.amount = n := by
  obtain ⟨action, source, sets, rfl⟩ := grants
  cases sets <;> exact ⟨Action.isWritten_modifier _ _, rfl, rfl⟩

theorem Side.Evaluates.allGrantSaves {side : Side} {view : View} {rules : List Rule}
    (evaluates : side.Evaluates view rules) {stat : String} (save : stat ∈ saveStats) :
    ∀ entry ∈ side.board.ledger.entriesFor stat, ∃ n, entry.GrantsSave stat n := by
  have all : side.board.ledger.AllEntries fun stat entry =>
      stat ∈ saveStats → ∃ n, entry.GrantsSave stat n := by
    refine evaluates.allEntries fun rule _ {action _ _} _ _ own => ?_
    obtain ⟨n, sets⟩ := Action.exists_setsSave own
    exact ⟨n, action, rule.id, sets, rfl⟩
  exact fun entry member => all stat entry member save

namespace Ledger

variable {ledger : Ledger} {stat : String}

/-- When all entries for a save set it, the last one does so for all. -/
theorem saveFor_eq (sets : ∀ entry ∈ ledger.entriesFor stat, ∃ n, entry.GrantsSave stat n)
    {granted : Option Int} (found : ledger.saveFor stat = .ok granted) :
    granted = (ledger.entriesFor stat).getLast?.map Modifier.amount := by
  unfold saveFor at found
  cases last : (ledger.entriesFor stat).getLast? with
  | none =>
      rw [List.getLast?_eq_none_iff.mp last, List.isEmpty_nil, if_pos rfl] at found
      exact (Except.ok.inj found).symm
  | some entry =>
      have member := List.mem_of_getLast? last
      have filled : (ledger.entriesFor stat).isEmpty = false :=
        List.isEmpty_eq_false_iff_exists_mem.mpr ⟨entry, member⟩
      have allSet : (ledger.entriesFor stat).filter (·.operation == .set) =
          ledger.entriesFor stat := by
        refine List.filter_eq_self.mpr fun other member => ?_
        obtain ⟨n, grants⟩ := sets other member
        simp [grants.value.2.1]
      have written : ∀ entry ∈ ledger.entriesFor stat, entry.IsWritten := by
        intro other member
        obtain ⟨n, grants⟩ := sets other member
        exact grants.value.1
      rw [filled] at found
      obtain ⟨value, applied, rfl⟩ := map_eq_ok_iff.mp found
      have settles := applyInt_eq_settled written applied
      rw [settled, lastSet?, allSet, last] at settles
      rw [settles, Option.map_some]

end Ledger

/-! ## Sources -/

/-- The invulnerable saves on offer in a combat: the one of the target's profile, and the
one that a rule set last. -/
inductive Encounter.OffersInvulnerable (encounter : Encounter) (board : Board) : Int → Prop
  | printed {n : Int} (found : encounter.defender.leadProfile.invulnerable = some n) :
      OffersInvulnerable encounter board n
  | granted {entry : Modifier} {n : Int}
      (last : (board.ledger.entriesFor "INV").getLast? = some entry)
      (grants : entry.GrantsSave "INV" n) : OffersInvulnerable encounter board n

/-- The Feel No Pain thresholds on offer in a combat: the one of the target's profile, those
of its own abilities and of the granted ones, and the one that a rule set last. -/
inductive Encounter.OffersFeelNoPain (encounter : Encounter) (board : Board) : Int → Prop
  | printed {n : Int} (found : encounter.defender.leadProfile.feelNoPain = some n) :
      OffersFeelNoPain encounter board n
  | own {n : Int} (member : .feelNoPain n ∈ encounter.defender.abilities) :
      OffersFeelNoPain encounter board n
  | ability {n : Int} (member : .unit (.feelNoPain n) ∈ board.granted) :
      OffersFeelNoPain encounter board n
  | granted {entry : Modifier} {n : Int}
      (last : (board.ledger.entriesFor "FNP").getLast? = some entry)
      (grants : entry.GrantsSave "FNP" n) : OffersFeelNoPain encounter board n

theorem mem_feelNoPainThresholds {unit : BattleUnit} {board : Board} {n : Int} :
    n ∈ feelNoPainThresholds unit board ↔
      .feelNoPain n ∈ unit.abilities ∨ .unit (.feelNoPain n) ∈ board.granted := by
  have shows : ∀ ability : Ability,
      ability.feelNoPain? = some n ↔ ability = .unit (.feelNoPain n) := by
    intro ability
    unfold Ability.feelNoPain?
    split <;> simp_all
  have filed : (Ability.unit (.feelNoPain n)).stat = "unitAbility:feelNoPain" := rfl
  unfold feelNoPainThresholds Board.grantedUnder
  simp only [List.mem_filterMap, shows, exists_eq_right, List.mem_append, List.mem_map,
    Ability.unit.injEq, List.mem_filter, filed, beq_self_eq_true, and_true]

/-- The last entry for a save is the one whose number counts. -/
theorem eq_amount_iff_grants {entries : List Modifier} {stat : String}
    (sets : ∀ entry ∈ entries, ∃ n, entry.GrantsSave stat n) {n : Int} :
    entries.getLast?.map Modifier.amount = some n ↔
      ∃ entry, entries.getLast? = some entry ∧ entry.GrantsSave stat n := by
  rw [Option.map_eq_some_iff]
  refine exists_congr fun entry => and_congr_right fun last => ?_
  obtain ⟨m, grants⟩ := sets entry (List.mem_of_getLast? last)
  constructor
  · rintro rfl
    rwa [grants.value.2.2]
  · exact fun grants => grants.value.2.2

/-! ## Combats -/

section

variable {encounter : Encounter} {attackerRules defenderRules : List Rule} {trace : Trace}
  {combat : PreparedCombat}

/-- In every combat the invulnerable save and the Feel No Pain threshold are the best of
those on offer.  Of the numbers that rules set for a save, which are all its entries in the
defender's ledger, only the last one is on offer. -/
theorem prepare_takes_best_saves
    (prepared : (prepare encounter attackerRules defenderRules trace).1 = .ok combat) :
    IsBestOf combat.numbers.invulnerable (encounter.OffersInvulnerable combat.defender.board) ∧
    IsBestOf combat.numbers.feelNoPain (encounter.OffersFeelNoPain combat.defender.board) ∧
    ∀ stat ∈ saveStats, ∀ entry ∈ combat.defender.board.ledger.entriesFor stat,
      ∃ n, entry.GrantsSave stat n := by
  have evaluates := (evaluates_of_prepare prepared).2
  have merged := Merged.of_mergeNumbers (merged_of_prepare prepared)
  refine ⟨?_, ?_, fun stat save => evaluates.allGrantSaves save⟩
  · obtain ⟨granted, found, best⟩ := merged.invulnerable
    have save : "INV" ∈ saveStats := by decide
    have sets := evaluates.allGrantSaves save
    rw [best, Ledger.saveFor_eq sets found]
    refine isBestOf_bestThreshold fun n => ?_
    simp only [List.mem_cons, List.not_mem_nil, or_false]
    constructor
    · rintro (printed | granted)
      · exact .printed printed.symm
      · obtain ⟨entry, last, grants⟩ := (eq_amount_iff_grants sets).mp granted.symm
        exact .granted last grants
    · rintro (⟨printed⟩ | ⟨last, grants⟩)
      · exact .inl printed.symm
      · exact .inr ((eq_amount_iff_grants sets).mpr ⟨_, last, grants⟩).symm
  · obtain ⟨granted, found, best⟩ := merged.feelNoPain
    have save : "FNP" ∈ saveStats := by decide
    have sets := evaluates.allGrantSaves save
    rw [best, Ledger.saveFor_eq sets found]
    refine isBestOf_bestThreshold fun n => ?_
    simp only [List.mem_cons, List.mem_map, Option.some.injEq, exists_eq_right,
      mem_feelNoPainThresholds]
    constructor
    · rintro (printed | granted | own | ability)
      · exact .printed printed.symm
      · obtain ⟨entry, last, grants⟩ := (eq_amount_iff_grants sets).mp granted.symm
        exact .granted last grants
      · exact .own own
      · exact .ability ability
    · rintro (⟨printed⟩ | ⟨own⟩ | ⟨ability⟩ | ⟨last, grants⟩)
      · exact .inl printed.symm
      · exact .inr (.inr (.inl own))
      · exact .inr (.inr (.inr ability))
      · exact .inr (.inl ((eq_amount_iff_grants sets).mpr ⟨_, last, grants⟩).symm)

end

/-- Hunters who shoot at boyz without a save of their own. -/
def shootingAtBoyz : Encounter where
  attacker := { id := "hunters", armyId := "wolves" }
  defender := { id := "boyz", armyId := "orks", abilities := [.feelNoPain 6] }
  weapon := { name := "Boltgun", range := 24 }

/-- Two force fields, the second one worse than the first, and a painboy. -/
def forceFields : List Rule :=
  [Rule.passiveRule "force field" .always (.setInvulnerable 4),
    Rule.passiveRule "worn force field" .always (.setInvulnerable 6),
    Rule.passiveRule "painboy" .always (.addUnitAbility (.feelNoPain 5))]

/-- The worn force field is the one that counts, and the painboy helps the boyz more than
their own ability. -/
theorem forceFields_take_best_saves :
    ∃ combat : PreparedCombat,
      (prepare shootingAtBoyz [] forceFields none).1 = .ok combat ∧
      (combat.numbers.invulnerable, combat.numbers.feelNoPain) = (some 6, some 5) ∧
      IsBestOf combat.numbers.invulnerable
        (shootingAtBoyz.OffersInvulnerable combat.defender.board) ∧
      IsBestOf combat.numbers.feelNoPain
        (shootingAtBoyz.OffersFeelNoPain combat.defender.board) := by
  have ran : (prepare shootingAtBoyz [] forceFields none).1.toOption.map (fun combat =>
      (combat.numbers.invulnerable, combat.numbers.feelNoPain)) = some (some 6, some 5) := by
    decide +kernel
  obtain ⟨combat, prepared, shown⟩ := exists_ok_of_shown ran
  obtain ⟨invulnerable, feelNoPain, -⟩ := prepare_takes_best_saves prepared
  exact ⟨combat, prepared, shown, invulnerable, feelNoPain⟩

/-- A worse save that a rule sets later takes back the better one that was set before: the
defender's ledger holds a four, and the save is a six. -/
theorem later_save_replaces_better_one :
    ∃ combat : PreparedCombat,
      (prepare shootingAtBoyz [] forceFields none).1 = .ok combat ∧
      ∃ entry ∈ combat.defender.board.ledger.entriesFor "INV",
        entry.GrantsSave "INV" 4 ∧ ¬ ∃ threshold ∈ combat.numbers.invulnerable, threshold ≤ 4 := by
  have ran : (prepare shootingAtBoyz [] forceFields none).1.toOption.map (fun combat =>
      (combat.defender.board.ledger.entriesFor "INV", combat.numbers.invulnerable)) =
      some ([(Action.setInvulnerable 4).modifier "force field",
        (Action.setInvulnerable 6).modifier "worn force field"], some 6) := by
    decide +kernel
  obtain ⟨combat, prepared, shown⟩ := exists_ok_of_shown ran
  obtain ⟨entries, invulnerable⟩ := Prod.mk.inj shown
  refine ⟨combat, prepared, (Action.setInvulnerable 4).modifier "force field", ?_, ?_, ?_⟩
  · rw [entries]
    exact List.mem_cons_self ..
  · exact ⟨_, "force field", .invulnerable 4, rfl⟩
  · rw [invulnerable]
    simp

end Skirmish
