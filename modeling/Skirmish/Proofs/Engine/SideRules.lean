import Skirmish.Proofs.Army.Reminders
import Skirmish.Proofs.Combat.Numbers
import Skirmish.Proofs.Content.Agreement

/-!
# The rules of a side

Each side of an attack refers to its rules by their ids.  The rules of its army and its
detachment come first, then those of its others that belong to the phase of the weapon, each
of them once.  So it does not matter how often a rule is referred to, nor how the references
to both sorts of rules are mingled.
-/

namespace Skirmish

/-! ## First occurrences -/

section

variable {α : Type} [BEq α] [LawfulBEq α]

omit [LawfulBEq α] in
/-- What holds of the empty list, and of a list when it holds of the items behind the first
one that differ from it, holds of every list. -/
theorem induction_on_others {holds : List α → Prop} (nil : holds [])
    (cons : ∀ first rest, holds (rest.filter (!· == first)) → holds (first :: rest)) :
    ∀ items, holds items
  | [] => nil
  | first :: rest => cons first rest (induction_on_others nil cons _)
termination_by items => items.length
decreasing_by
  exact Nat.lt_succ_of_le (List.length_filter_le _ _)

theorem nodup_eraseDups (items : List α) : items.eraseDups.Nodup := by
  induction items using induction_on_others with
  | nil => exact List.nodup_nil
  | cons first rest ih =>
      rw [List.eraseDups_cons, List.nodup_cons]
      exact ⟨by simp [List.mem_eraseDups], ih⟩

theorem eraseDups_filter (items : List α) (keeps : α → Bool) :
    (items.filter keeps).eraseDups = items.eraseDups.filter keeps := by
  induction items using induction_on_others generalizing keeps with
  | nil => rfl
  | cons first rest ih =>
      rw [List.eraseDups_cons, List.filter_cons, List.filter_cons, ← ih keeps,
        List.filter_filter]
      split
      · rw [List.eraseDups_cons, List.filter_filter]
        simp only [Bool.and_comm]
      · rename_i dropped
        -- An item that is kept differs from the first one, which is not.
        refine congrArg List.eraseDups (List.filter_congr fun item _ => ?_)
        cases kept : keeps item with
        | false => rfl
        | true =>
            have differs : item ≠ first := by rintro rfl; exact dropped kept
            simp [differs]

theorem eraseDups_of_nodup {items : List α} (nodup : items.Nodup) : items.eraseDups = items := by
  induction items with
  | nil => rfl
  | cons first rest ih =>
      obtain ⟨fresh, others⟩ := List.nodup_cons.mp nodup
      have unchanged : rest.filter (!· == first) = rest :=
        List.filter_eq_self.mpr fun item member => by
          have differs : item ≠ first := by rintro rfl; exact fresh member
          simp [differs]
      rw [List.eraseDups_cons, unchanged, ih others]

theorem eraseDups_append_eraseDups (items others : List α) :
    (items.eraseDups ++ others.eraseDups).eraseDups = (items ++ others).eraseDups := by
  have same : others.eraseDups.removeAll items.eraseDups =
      (others.removeAll items).eraseDups := by
    rw [List.removeAll, List.removeAll, eraseDups_filter]
    exact List.filter_congr fun item _ => by simp [List.mem_eraseDups]
  rw [List.eraseDups_append, List.eraseDups_append, same,
    eraseDups_of_nodup (nodup_eraseDups _), eraseDups_of_nodup (nodup_eraseDups _)]

end

/-! ## Distinct rules -/

/-- Of the ids of rules the first occurrences are kept, those seen before aside. -/
theorem map_id_distinctRules_go (seen : List String) (rules : List Rule) :
    (distinctRules.go seen rules).map (·.id) =
      (rules.map (·.id)).eraseDups.filter (!seen.contains ·) := by
  induction rules generalizing seen with
  | nil => rfl
  | cons rule rest ih =>
      rw [distinctRules.go, List.map_cons, List.eraseDups_cons, List.filter_cons,
        eraseDups_filter, List.filter_filter]
      split
      · rename_i repeated
        rw [ih, if_neg (by simpa using repeated)]
        refine List.filter_congr fun id _ => ?_
        by_cases same : id = rule.id
        · simp only [same, repeated]
          rfl
        · simp [same]
      · rename_i fresh
        rw [List.map_cons, ih, if_pos (by simpa using fresh)]
        refine congrArg _ (List.filter_congr fun id _ => ?_)
        by_cases same : id = rule.id <;> simp [same]

theorem map_id_distinctRules (rules : List Rule) :
    (distinctRules rules).map (·.id) = (rules.map (·.id)).eraseDups := by
  rw [distinctRules, map_id_distinctRules_go]
  simp

/-! ## Looking up -/

namespace Catalogue

variable {catalogue : Catalogue} {id : String} {rule : Rule} {rules others : List Rule}

/-- The rule is the one that the catalogue finds under its id. -/
def Holds (catalogue : Catalogue) (rule : Rule) : Prop :=
  catalogue.rule rule.id = .ok rule

theorem id_of_rule (found : catalogue.rule id = .ok rule) : rule.id = id := by
  unfold Catalogue.rule require find? at found
  split at found
  · rename_i other looked
    cases found
    have same := List.find?_some looked
    exact beq_iff_eq.mp same
  · cases found

/-- Rules of one catalogue are told apart by their ids. -/
theorem eq_of_map_id_eq (held : ∀ rule ∈ rules, catalogue.Holds rule)
    (heldOther : ∀ rule ∈ others, catalogue.Holds rule)
    (same : rules.map (·.id) = others.map (·.id)) : rules = others := by
  induction rules generalizing others with
  | nil => exact (List.map_eq_nil_iff.mp same.symm).symm
  | cons rule rules ih =>
      cases others with
      | nil => cases same
      | cons other others =>
          rw [List.forall_mem_cons] at held heldOther
          obtain ⟨sameId, sameIds⟩ := List.cons.inj same
          have again : catalogue.rule rule.id = .ok other := by
            rw [show rule.id = other.id from sameId]
            exact heldOther.1
          rw [ok_unique held.1 again, ih held.2 heldOther.2 sameIds]

theorem held_of_found {ids : List String}
    (found : List.Forall₂ (fun id rule => catalogue.rule id = .ok rule) ids rules) :
    (∀ rule ∈ rules, catalogue.Holds rule) ∧ rules.map (·.id) = ids := by
  induction found with
  | nil => exact ⟨List.forall_mem_nil _, rfl⟩
  | cons found _ ih =>
      obtain rfl := id_of_rule found
      exact ⟨List.forall_mem_cons.mpr ⟨found, ih.1⟩, by rw [List.map_cons, ih.2]⟩

/-- The rule with an id has a property, as the catalogue tells. -/
def tells (catalogue : Catalogue) (property : Rule → Bool) (id : String) : Bool :=
  (catalogue.rule id).toOption.any property

theorem Holds.tells_id (holds : catalogue.Holds rule) (property : Rule → Bool) :
    catalogue.tells property rule.id = property rule := by
  rw [tells, show catalogue.rule rule.id = .ok rule from holds]
  rfl

theorem map_id_filter (held : ∀ rule ∈ rules, catalogue.Holds rule) (property : Rule → Bool) :
    (rules.filter property).map (·.id) =
      (rules.map (·.id)).filter (catalogue.tells property) := by
  rw [List.filter_map]
  exact congrArg _ <| List.filter_congr fun rule member =>
    ((held rule member).tells_id property).symm

end Catalogue

theorem Engine.held_of_rules {engine : Engine} {ids : List String} {rules : List Rule}
    (looked : engine.rules (ids.map .id) = .ok rules) :
    (∀ rule ∈ rules, engine.catalogue.Holds rule) ∧ rules.map (·.id) = ids := by
  rw [Engine.rules, mapM_eq_ok_iff, List.forall₂_map_left_iff] at looked
  exact Catalogue.held_of_found looked

/-! ## The rules that a side uses -/

/-- The rule belongs to the phase in which the weapon is used. -/
def Weapon.suits (weapon : Weapon) (rule : Rule) : Bool :=
  rule.trigger.includesPhase (Vocabulary.word weapon.combatPhase)

/-- The ids of the rules that a side uses which refers to rules by `ids`. -/
def Catalogue.sideIds (catalogue : Catalogue) (weapon : Weapon) (ids : List String) :
    List String :=
  (ids.filter (catalogue.tells Rule.isArmyWide) ++
    (ids.filter (catalogue.tells (!Rule.isArmyWide ·))).filter
      (catalogue.tells weapon.suits)).eraseDups

theorem Engine.held_of_sideRules {engine : Engine} {ids : List String} {weapon : Weapon}
    {used : List Rule} (looked : engine.sideRules (ids.map .id) weapon = .ok used) :
    (∀ rule ∈ used, engine.catalogue.Holds rule) ∧
      used.map (·.id) = engine.catalogue.sideIds weapon ids := by
  obtain ⟨rules, looked, same⟩ := bind_eq_ok_iff.mp looked
  obtain ⟨held, sameIds⟩ := held_of_rules looked
  cases same
  refine ⟨fun rule used => ?_, ?_⟩
  · rcases List.mem_append.mp ((distinctRules_sublist _).subset used) with army | own
    · exact held rule (List.mem_of_mem_filter army)
    · exact held rule (List.mem_of_mem_filter (List.mem_of_mem_filter own))
  · have heldOwn : ∀ rule ∈ rules.filter (!Rule.isArmyWide ·), engine.catalogue.Holds rule :=
      fun rule own => held rule (List.mem_of_mem_filter own)
    rw [Skirmish.sideRules, map_id_distinctRules, List.map_append,
      Catalogue.map_id_filter held, rulesForPhase, Catalogue.map_id_filter heldOwn,
      Catalogue.map_id_filter held, sameIds]
    rfl

theorem Engine.sideRules_of_ids {engine : Engine} {ids : List String}
    (known : ∀ id ∈ ids, id ∈ engine.catalogue.rules.map (·.id)) (weapon : Weapon) :
    ∃ rules, engine.sideRules (ids.map .id) weapon = .ok rules ∧
      (∀ rule ∈ rules, engine.catalogue.Holds rule) ∧
      rules.map (·.id) = engine.catalogue.sideIds weapon ids := by
  obtain ⟨rules, looked⟩ := exists_sideRules
    (fun id listed => Catalogue.exists_require_iff.mpr (known id listed)) weapon
  exact ⟨rules, looked, held_of_sideRules looked⟩

/-! ## References that come to the same -/

namespace Catalogue

variable {catalogue : Catalogue} {ids others : List String} {weapon : Weapon}
  {rules : List Rule}

/-- The other ids are the same ones in another order, in which the rules of armies and
detachments stand as they stood to each other, and so do the other rules. -/
structure Mingled (catalogue : Catalogue) (ids others : List String) : Prop where
  perm : others.Perm ids
  armyWide : others.filter (catalogue.tells Rule.isArmyWide) =
    ids.filter (catalogue.tells Rule.isArmyWide)
  own : others.filter (catalogue.tells (!Rule.isArmyWide ·)) =
    ids.filter (catalogue.tells (!Rule.isArmyWide ·))

theorem sideIds_of_mingled (mingled : catalogue.Mingled ids others) :
    catalogue.sideIds weapon others = catalogue.sideIds weapon ids := by
  rw [sideIds, sideIds, mingled.armyWide, mingled.own]

theorem sideIds_eraseDups :
    catalogue.sideIds weapon ids.eraseDups = catalogue.sideIds weapon ids := by
  simp only [sideIds, ← eraseDups_filter, eraseDups_append_eraseDups]

/-- The rules are those that a side uses which refers to rules by `ids`.  They have different
ids; and they are, of the rules referred to, those of armies and detachments, and of the others
those that belong to the phase of the weapon. -/
structure AreUsed (catalogue : Catalogue) (weapon : Weapon) (ids : List String)
    (rules : List Rule) : Prop where
  distinct : (rules.map (·.id)).Nodup
  mem_iff : ∀ rule, rule ∈ rules ↔
    (∃ id ∈ ids, catalogue.rule id = .ok rule) ∧
      (rule.scope = .army ∨ rule.scope = .detachment ∨
        rule.trigger.includesPhase (Vocabulary.word weapon.combatPhase) = true)

theorem exists_rule_iff {rule : Rule} :
    (∃ id ∈ ids, catalogue.rule id = .ok rule) ↔ rule.id ∈ ids ∧ catalogue.Holds rule := by
  constructor
  · rintro ⟨id, listed, found⟩
    obtain rfl := id_of_rule found
    exact ⟨listed, found⟩
  · rintro ⟨listed, holds⟩
    exact ⟨rule.id, listed, holds⟩

theorem mem_iff_of_map_id_eq (held : ∀ rule ∈ rules, catalogue.Holds rule)
    (sameIds : rules.map (·.id) = ids) {rule : Rule} :
    rule ∈ rules ↔ rule.id ∈ ids ∧ catalogue.Holds rule := by
  subst sameIds
  constructor
  · intro member
    exact ⟨List.mem_map_of_mem member, held rule member⟩
  · rintro ⟨listed, holds⟩
    obtain ⟨other, member, same⟩ := List.mem_map.mp listed
    have again : catalogue.rule rule.id = .ok other := same ▸ held other member
    rwa [ok_unique holds again]

theorem areUsed_of_sideIds (held : ∀ rule ∈ rules, catalogue.Holds rule)
    (sameIds : rules.map (·.id) = catalogue.sideIds weapon ids) :
    catalogue.AreUsed weapon ids rules where
  distinct := sameIds ▸ nodup_eraseDups _
  mem_iff rule := by
    have wide : rule.isArmyWide = true ↔ rule.scope = .army ∨ rule.scope = .detachment := by
      simp [Rule.isArmyWide]
    rw [mem_iff_of_map_id_eq held sameIds, exists_rule_iff, and_right_comm, ← or_assoc, ← wide]
    refine and_congr_left fun holds => ?_
    simp only [sideIds, List.mem_eraseDups, List.mem_append, List.mem_filter, holds.tells_id,
      Weapon.suits]
    cases rule.isArmyWide <;> simp

end Catalogue

variable {σ : Type} [DiceSource σ]

/-- Of the references only the rules that they come to count. -/
theorem Engine.resolveAttack_congr {engine : Engine} {encounter : Encounter}
    {attackers attackersAgain defenders defendersAgain : List RuleReference}
    (sameAttackers : engine.sideRules attackersAgain encounter.weapon =
      engine.sideRules attackers encounter.weapon)
    (sameDefenders : engine.sideRules defendersAgain encounter.weapon =
      engine.sideRules defenders encounter.weapon) (traced : Bool) :
    engine.resolveAttack encounter attackersAgain defendersAgain traced =
      (engine.resolveAttack encounter attackers defenders traced : Roll σ AttackResult) := by
  rw [resolveAttack, sameAttackers, sameDefenders]
  rfl

theorem Engine.sideRules_congr {engine : Engine} {weapon : Weapon} {ids others : List String}
    (known : ∀ id ∈ ids, id ∈ engine.catalogue.rules.map (·.id))
    (subset : others ⊆ ids)
    (same : engine.catalogue.sideIds weapon others = engine.catalogue.sideIds weapon ids) :
    engine.sideRules (others.map .id) weapon = engine.sideRules (ids.map .id) weapon := by
  obtain ⟨rules, looked, held, sameIds⟩ := sideRules_of_ids known weapon
  obtain ⟨rulesAgain, lookedAgain, heldAgain, sameIdsAgain⟩ :=
    sideRules_of_ids (fun id listed => known id (subset listed)) weapon
  rw [looked, lookedAgain, Catalogue.eq_of_map_id_eq heldAgain held
    (sameIdsAgain.trans (same.trans sameIds.symm))]

/-- Let both sides refer to known rules by their ids.  The attack is resolved with rules that
have different ids: all those of armies and detachments that are referred to, and of the others
those that belong to the phase of the weapon.  It comes to the same, with every source of dice,
when later references to a rule are left out, and when the references to the one and the other
sort of rules are mingled in another way. -/
theorem Engine.resolveAttack_counts_rules_once (engine : Engine) (encounter : Encounter)
    (traced : Bool) {attackerIds defenderIds : List String}
    (attackersKnown : ∀ id ∈ attackerIds, id ∈ engine.catalogue.rules.map (·.id))
    (defendersKnown : ∀ id ∈ defenderIds, id ∈ engine.catalogue.rules.map (·.id)) :
    (∃ attackerRules defenderRules,
      engine.catalogue.AreUsed encounter.weapon attackerIds attackerRules ∧
      engine.catalogue.AreUsed encounter.weapon defenderIds defenderRules ∧
      (∀ trace combat,
        (prepare encounter attackerRules defenderRules trace).1 = .ok combat →
          combat.attacker.resolutions.map (·.rule) = attackerRules ∧
          combat.defender.resolutions.map (·.rule) = defenderRules) ∧
      engine.resolveAttack encounter (attackerIds.map .id) (defenderIds.map .id) traced =
        (do
          modify fun table => { table with trace := engine.newTrace traced }
          Skirmish.resolveAttack encounter attackerRules defenderRules :
            Roll σ AttackResult)) ∧
    engine.resolveAttack encounter (attackerIds.eraseDups.map .id)
        (defenderIds.eraseDups.map .id) traced =
      (engine.resolveAttack encounter (attackerIds.map .id) (defenderIds.map .id) traced :
        Roll σ AttackResult) ∧
    ∀ attackerOthers defenderOthers,
      engine.catalogue.Mingled attackerIds attackerOthers →
      engine.catalogue.Mingled defenderIds defenderOthers →
      engine.resolveAttack encounter (attackerOthers.map .id) (defenderOthers.map .id) traced =
        (engine.resolveAttack encounter (attackerIds.map .id) (defenderIds.map .id) traced :
          Roll σ AttackResult) := by
  refine ⟨?_, ?_, fun attackerOthers defenderOthers attackersMingled defendersMingled => ?_⟩
  · obtain ⟨attackerRules, attacking, attackersHeld, sameAttackers⟩ :=
      sideRules_of_ids attackersKnown encounter.weapon
    obtain ⟨defenderRules, defending, defendersHeld, sameDefenders⟩ :=
      sideRules_of_ids defendersKnown encounter.weapon
    refine ⟨attackerRules, defenderRules,
      Catalogue.areUsed_of_sideIds attackersHeld sameAttackers,
      Catalogue.areUsed_of_sideIds defendersHeld sameDefenders,
      fun _ _ => map_rule_of_prepare, ?_⟩
    rw [resolveAttack, attacking, defending]
    rfl
  · have fewer (ids : List String) : ids.eraseDups ⊆ ids :=
      fun _ listed => List.mem_eraseDups.mp listed
    exact resolveAttack_congr
      (sideRules_congr attackersKnown (fewer _) Catalogue.sideIds_eraseDups)
      (sideRules_congr defendersKnown (fewer _) Catalogue.sideIds_eraseDups) traced
  · exact resolveAttack_congr
      (sideRules_congr attackersKnown attackersMingled.perm.subset
        (Catalogue.sideIds_of_mingled attackersMingled))
      (sideRules_congr defendersKnown defendersMingled.perm.subset
        (Catalogue.sideIds_of_mingled defendersMingled)) traced

/-- A rule that gives a further attack to each model. -/
def Rule.furtherAttack (id : String) (scope : Scope) (phase : Phase) : Rule where
  id := id
  name := id
  scope := scope
  trigger := { phase := .one phase }
  body := .passive [.perform [.known (.modWeaponStat .attacks 1) .all []]]

/-- An engine with a rule of an army, and two rules of units for one phase each. -/
def hunt : Engine where
  catalogue := { rules := [.furtherAttack "oath" .army .command,
    .furtherAttack "volley" .unit .shooting, .furtherAttack "ambush" .unit .fight] }

/-- A hunter who shoots once. -/
def hunterShoots : Encounter where
  attacker := { id := "hunter", armyId := "wolves" }
  defender := { id := "boyz", armyId := "orks" }
  weapon := { name := "Boltgun", range := 24 }

/-- The attacker refers twice to the rule of its army and to one of its own rules, but each of
them counts once, and the rule for another phase not at all. -/
theorem hunterShoots_three_times :
    let references := ["volley", "oath", "ambush", "oath", "volley"]
    let table : Table Script := { dice := { faces := #[4, 5, 2, 6, 1] } }
    (∃ result final, Returns (hunt.resolveAttack hunterShoots (references.map .id) [] false)
      table result final ∧ result.summary.attacks = 3) ∧
    (hunt.resolveAttack hunterShoots (["volley", "oath", "ambush"].map .id) [] false :
        Roll Script AttackResult) =
      hunt.resolveAttack hunterShoots (references.map .id) [] false ∧
    (hunt.resolveAttack hunterShoots
        (["oath", "volley", "oath", "ambush", "volley"].map .id) [] false :
        Roll Script AttackResult) =
      hunt.resolveAttack hunterShoots (references.map .id) [] false := by
  intro references table
  have known : ∀ id ∈ references, id ∈ hunt.catalogue.rules.map (·.id) := by decide
  have ran : (outcomeOf (hunt.resolveAttack hunterShoots (references.map .id) [] false)
      table).1.toOption.map (·.summary.attacks) = some 3 := by
    decide +kernel
  obtain ⟨-, once, mingled⟩ := @Engine.resolveAttack_counts_rules_once Script _ hunt
    hunterShoots false references [] known nofun
  exact ⟨exists_returns_of_shown ran, once,
    mingled ["oath", "volley", "oath", "ambush", "volley"] []
      ⟨by decide, by decide, by decide⟩ ⟨.nil, rfl, rfl⟩⟩

end Skirmish
