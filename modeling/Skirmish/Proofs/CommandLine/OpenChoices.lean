import Skirmish.CommandLine.Run
import Skirmish.Proofs.Combat.Attack
import Skirmish.Proofs.Engine.SideRules

/-!
# Choices that a simulation waits for

A simulated attack shows, besides the rules that were applied, those that wait for a choice.
The attacker's open choices are all among the rules to show.  The report leaves out whatever
was applied on either side, though: a rule that both sides bring is not waited for any more
when the defender's army has made its choice.
-/

namespace Skirmish

/-! ## Open choices of a combat -/

namespace PreparedCombat

/-- The rules to show that neither side applied. -/
def awaitedRules (combat : PreparedCombat) : List Rule :=
  combat.visibleRules.filter fun rule => !combat.appliedRules.any (·.id == rule.id)

variable {combat : PreparedCombat} {resolution : Resolution}

theorem mem_visibleRules_of_isPending (resolved : resolution ∈ combat.attacker.resolutions)
    (pending : resolution.isPending = true) : resolution.rule ∈ combat.visibleRules := by
  refine List.mem_append_left _ (List.mem_append_right _ ?_)
  exact List.mem_map_of_mem (List.mem_filter.mpr ⟨resolved, pending⟩)

end PreparedCombat

theorem Resolution.not_isApplied_of_isPending {resolution : Resolution}
    (pending : resolution.isPending = true) : resolution.isApplied = false := by
  have status : resolution.status = .choicePending := beq_iff_eq.mp pending
  simp [isApplied, status]

theorem Resolution.mem_applied_iff {resolutions : List Resolution} {rule : Rule} :
    rule ∈ applied resolutions ↔
      ∃ resolution ∈ resolutions, resolution.isApplied = true ∧ resolution.rule = rule := by
  simp [applied, and_assoc]

/-- Of the rules of one side, which have different ids, none is applied that is pending. -/
theorem Resolution.id_ne_of_isPending {resolutions : List Resolution}
    (distinct : ((resolutions.map (·.rule)).map (·.id)).Nodup) {resolution : Resolution}
    (resolved : resolution ∈ resolutions) (pending : resolution.isPending = true) :
    ∀ rule ∈ applied resolutions, rule.id ≠ resolution.rule.id := by
  intro rule member same
  obtain ⟨other, resolvedOther, isApplied, rfl⟩ := mem_applied_iff.mp member
  rw [List.map_map] at distinct
  obtain rfl := List.inj_on_of_nodup_map distinct resolvedOther resolved same
  rw [not_isApplied_of_isPending pending] at isApplied
  cases isApplied

namespace PreparedCombat

variable {encounter : Encounter} {attackerRules defenderRules : List Rule} {trace : Trace}
  {combat : PreparedCombat} {catalogue : Catalogue} {resolution : Resolution}

theorem appliedRules_eq_append :
    combat.appliedRules = Resolution.applied combat.attacker.resolutions ++
      Resolution.applied combat.defender.resolutions := by
  rw [appliedRules, Resolution.applied, List.filter_append, List.map_append]
  rfl

theorem mem_awaitedRules_iff {rule : Rule} :
    rule ∈ combat.awaitedRules ↔
      rule ∈ combat.visibleRules ∧
      (∀ other ∈ Resolution.applied combat.attacker.resolutions, other.id ≠ rule.id) ∧
      ∀ other ∈ Resolution.applied combat.defender.resolutions, other.id ≠ rule.id := by
  simp only [awaitedRules, List.mem_filter, Bool.not_eq_true', List.any_eq_false, beq_iff_eq,
    appliedRules_eq_append, List.forall_mem_append]

/-- A choice of the attacker that is open is waited for, unless the defender applied the same
rule. -/
theorem mem_awaitedRules_of_isPending
    (prepared : (prepare encounter attackerRules defenderRules trace).1 = .ok combat)
    (attackersHeld : ∀ rule ∈ attackerRules, catalogue.Holds rule)
    (defendersHeld : ∀ rule ∈ defenderRules, catalogue.Holds rule)
    (distinct : (attackerRules.map (·.id)).Nodup)
    (resolved : resolution ∈ combat.attacker.resolutions)
    (pending : resolution.isPending = true) :
    resolution.rule ∈ combat.awaitedRules ↔
      resolution.rule ∉ Resolution.applied combat.defender.resolutions := by
  obtain ⟨sameAttackers, sameDefenders⟩ := map_rule_of_prepare prepared
  rw [mem_awaitedRules_iff]
  constructor
  · rintro ⟨-, -, others⟩ applied
    exact others _ applied rfl
  · intro notApplied
    refine ⟨mem_visibleRules_of_isPending resolved pending,
      Resolution.id_ne_of_isPending (sameAttackers ▸ distinct) resolved pending,
      fun other applied sameId => notApplied ?_⟩
    -- Both rules come from the catalogue, so the same id is that of the same rule.
    have own : catalogue.Holds resolution.rule :=
      attackersHeld _ (sameAttackers ▸ List.mem_map_of_mem resolved)
    have foreign : catalogue.Holds other := by
      obtain ⟨resolutionOther, resolvedOther, -, rfl⟩ := Resolution.mem_applied_iff.mp applied
      exact defendersHeld _ (sameDefenders ▸ List.mem_map_of_mem resolvedOther)
    have again : catalogue.rule resolution.rule.id = .ok other := sameId ▸ foreign
    rwa [ok_unique own again]

end PreparedCombat

theorem rules_of_resolveAttack {σ : Type} [DiceSource σ] {encounter : Encounter}
    {attackerRules defenderRules : List Rule} {table final : Table σ} {result : AttackResult}
    (returns : Returns (resolveAttack encounter attackerRules defenderRules) table result
      final) :
    ∃ combat, (prepare encounter attackerRules defenderRules table.trace).1 = .ok combat ∧
      result.visibleRules = combat.visibleRules ∧ result.appliedRules = combat.appliedRules := by
  simp only [resolveAttack, returns_bind_iff, returns_lift_iff, returns_pure_iff] at returns
  obtain ⟨combat, _, prepared, _, _, -, _, _, -, _, _, -, _, _, -, rfl, -⟩ := returns
  exact ⟨combat, (returns_prepareAtTable prepared).1, rfl, rfl⟩

/-! ## Simulations -/

/-- The combat of a scenario, prepared by the rules that both sides refer to. -/
def Engine.combat (engine : Engine) (scenario : Scenario) (traced : Bool) :
    Except Fault PreparedCombat := do
  let attackerRules ← engine.sideRules (scenario.attackerRules.map .id) scenario.weapon
  let defenderRules ← engine.sideRules (scenario.defenderRules.map .id) scenario.weapon
  (prepare scenario.encounter attackerRules defenderRules (engine.newTrace traced)).1

theorem Engine.combat_of_runScenario {σ : Type} [DiceSource σ] {engine : Engine}
    {scenario : Scenario} {traced : Bool} {table final : Table σ} {result : AttackResult}
    (returns : Returns (engine.runScenario scenario traced) table result final) :
    ∃ combat, engine.combat scenario traced = .ok combat ∧
      result.visibleRules = combat.visibleRules ∧ result.appliedRules = combat.appliedRules := by
  simp only [runScenario, resolveAttack, returns_bind_iff, returns_lift_iff,
    returns_modify_iff] at returns
  obtain ⟨attackerRules, _, ⟨attacking, rfl⟩, defenderRules, _, ⟨defending, rfl⟩, _, _, rfl,
    returns⟩ := returns
  obtain ⟨combat, prepared, told⟩ := rules_of_resolveAttack returns
  refine ⟨combat, ?_, told⟩
  rw [Engine.combat, bind_eq_ok_iff]
  exact ⟨attackerRules, attacking, bind_eq_ok_iff.mpr ⟨defenderRules, defending, prepared⟩⟩

/-- In the combat of a scenario a choice of the attacker that is open is waited for, unless the
defender applied the same rule. -/
theorem Engine.mem_awaitedRules_of_combat {engine : Engine} {scenario : Scenario}
    {traced : Bool} {combat : PreparedCombat}
    (prepared : engine.combat scenario traced = .ok combat)
    {resolution : Resolution} (resolved : resolution ∈ combat.attacker.resolutions)
    (pending : resolution.isPending = true) :
    resolution.rule ∈ combat.awaitedRules ↔
      resolution.rule ∉ Resolution.applied combat.defender.resolutions := by
  simp only [Engine.combat, bind_eq_ok_iff] at prepared
  obtain ⟨attackerRules, attacking, defenderRules, defending, prepared⟩ := prepared
  obtain ⟨attackersHeld, sameIds⟩ := held_of_sideRules attacking
  obtain ⟨defendersHeld, -⟩ := held_of_sideRules defending
  exact PreparedCombat.mem_awaitedRules_of_isPending prepared attackersHeld defendersHeld
    (sameIds ▸ nodup_eraseDups _) resolved pending

namespace CommandLine

theorem Session.attempt_eq_ok_iff {α : Type} {attempted : Except Fault α} {value : α} :
    Session.attempt attempted = .ok value ↔ attempted = .ok value := by
  cases attempted <;> simp [Session.attempt]

/-- Lines that can all be written are output as they are. -/
theorem Outcome.output_ofLines {lines : List Line}
    (succeeds : (Outcome.ofLines lines).ending = .success) :
    (Outcome.ofLines lines).output.map .ok = lines := by
  induction lines with
  | nil => rfl
  | cons line rest ih =>
      cases line with
      | error fault => cases succeeds
      | ok text =>
          simp only [ofLines, List.map_cons, Except.map, ofMessages, Bool.false_eq_true,
            if_false] at succeeds ⊢
          split at succeeds
          · cases succeeds
          · rw [if_neg ‹_›]
            exact congrArg (.ok text :: ·) (ih succeeds)

/-- The combat of a scenario that a command is about. -/
def Surroundings.combat (surroundings : Surroundings) (target : String) (traced : Bool)
    (content : Option Path) : Session PreparedCombat := do
  let engine ← surroundings.engine content
  let scenario ← surroundings.scenario engine target
  Session.attempt (engine.combat scenario traced)

theorem Surroundings.combat_eq_ok_iff {surroundings : Surroundings} {target : String}
    {traced : Bool} {content : Option Path} {combat : PreparedCombat} :
    surroundings.combat target traced content = .ok combat ↔
      ∃ engine scenario, surroundings.engine content = .ok engine ∧
        surroundings.scenario engine target = .ok scenario ∧
        engine.combat scenario traced = .ok combat := by
  simp only [Surroundings.combat, bind_eq_ok_iff, Session.attempt_eq_ok_iff, exists_and_left]

/-- A scenario that a command resolves has a combat, whose rules the lines of the attack tell. -/
theorem combat_of_simulateScenario {surroundings : Surroundings} {target : String}
    {traced : Bool} {seed : Option Int} {content : Option Path} {outcome : Outcome}
    (resolved : simulateScenario surroundings target traced seed content = .ok outcome) :
    ∃ combat scenario result, surroundings.combat target traced content = .ok combat ∧
      result.visibleRules = combat.visibleRules ∧ result.appliedRules = combat.appliedRules ∧
      outcome = .ofLines (attackLines scenario result) := by
  rw [simulateScenario, bind_eq_ok_iff] at resolved
  obtain ⟨engine, started, resolved⟩ := resolved
  obtain ⟨scenario, found, resolved⟩ := bind_eq_ok_iff.mp resolved
  obtain ⟨result, attempted, same⟩ := bind_eq_ok_iff.mp resolved
  rw [Session.attempt_eq_ok_iff] at attempted
  have returns : Returns (engine.runScenario scenario traced) _ result _ :=
    Prod.ext attempted rfl
  obtain ⟨combat, prepared, visible, applied⟩ := Engine.combat_of_runScenario returns
  exact ⟨combat, scenario, result,
    Surroundings.combat_eq_ok_iff.mpr ⟨engine, scenario, started, found, prepared⟩, visible,
    applied, (Except.ok.inj same).symm⟩

/-- The lines name the rule among those that wait for a choice. -/
def NamesAwaited (lines : List Line) (rule : Rule) : Prop :=
  ∃ names, .ok ("Awaiting choices: " ++ ", ".intercalate names) ∈ lines ∧ rule.name ∈ names

theorem namesAwaited_attackLines {scenario : Scenario} {result : AttackResult} {rule : Rule}
    (awaited : rule ∈ openRules result) : NamesAwaited (attackLines scenario result) rule := by
  have named : rule.name ∈ (openRules result).map (·.name) := List.mem_map_of_mem awaited
  refine ⟨(openRules result).map (·.name), ?_, named⟩
  have shown : .ok ("Awaiting choices: " ++ ", ".intercalate ((openRules result).map (·.name))) ∈
      listLine "Awaiting choices" ((openRules result).map (·.name)) := by
    rw [listLine, if_neg (by simpa using List.ne_nil_of_mem named)]
    exact List.mem_singleton.mpr rfl
  simp only [attackLines, List.mem_append, shown, true_or, or_true]

theorem NamesAwaited.any_isPrefixOf {texts : List String} {rule : Rule}
    (named : NamesAwaited (texts.map .ok) rule) :
    texts.any (fun text => "Awaiting choices: ".toList.isPrefixOf text.toList) = true := by
  obtain ⟨names, printed, -⟩ := named
  obtain ⟨text, put, same⟩ := List.mem_map.mp printed
  refine List.any_eq_true.mpr ⟨text, put, ?_⟩
  rw [Except.ok.inj same]
  rw [String.toList_append, List.isPrefixOf_iff_prefix]
  exact List.prefix_append _ _

/-- Let a command resolve the attack of a scenario.  Every choice of the attacker that is open is
among the rules to show.  It is waited for, and its name is put out with the others that are,
unless the defender applied the same rule. -/
theorem simulate_names_open_choices {surroundings : Surroundings} {target : String}
    {traced : Bool} {seed : Option Int} {content : Option Path} {outcome : Outcome}
    (resolved : simulateScenario surroundings target traced seed content = .ok outcome) :
    ∃ combat lines, surroundings.combat target traced content = .ok combat ∧
      Command.run surroundings (.simulate target traced seed content) = .ofLines lines ∧
      ((Outcome.ofLines lines).ending = .success →
        (Outcome.ofLines lines).output.map .ok = lines) ∧
      ∀ resolution ∈ combat.attacker.resolutions, resolution.isPending = true →
        resolution.rule ∈ combat.visibleRules ∧
        (resolution.rule ∈ combat.awaitedRules ↔
          resolution.rule ∉ Resolution.applied combat.defender.resolutions) ∧
        (resolution.rule ∈ combat.awaitedRules → NamesAwaited lines resolution.rule) := by
  obtain ⟨combat, scenario, result, found, visible, applied, shown⟩ :=
    combat_of_simulateScenario resolved
  refine ⟨combat, attackLines scenario result, found, ?_, Outcome.output_ofLines,
    fun resolution member pending => ⟨?_, ?_, fun awaited => ?_⟩⟩
  · rw [Command.run, resolved, Session.outcome, shown]
  · exact PreparedCombat.mem_visibleRules_of_isPending member pending
  · obtain ⟨engine, scenario, -, -, prepared⟩ := Surroundings.combat_eq_ok_iff.mp found
    exact engine.mem_awaitedRules_of_combat prepared member pending
  · refine namesAwaited_attackLines ?_
    rwa [openRules, visible, applied]

end CommandLine

/-! ## A duel -/

/-- A rule of armies whose player has to name a prey. -/
def vowValue : Value :=
  .object [("kind", .text "choice"), ("id", .text "vow"), ("name", .text "Vow"),
    ("scope", .text "army"),
    ("choice", .object [("id", .text "vow"), ("prompt", .text "Prey?"),
      ("options", .list [.object [("v", .text "beast"), ("label", .text "Beast")]])])]

/-- Two armies meet that both bring the rule, and that are in some states. -/
def duelValue (states : List Value) : Value :=
  .object [("id", .text "1"),
    ("attacker", .object [("id", .text "wolf"), ("army_id", .text "wolves")]),
    ("defender", .object [("id", .text "lion"), ("army_id", .text "lions")]),
    ("weapon", .object [("name", .text "Bow"), ("A", .text "0")]),
    ("attacker_rules", .list [.text "vow"]), ("defender_rules", .list [.text "vow"]),
    ("army_states", .list states)]

/-- The defender's army has named its prey. -/
def preyOfLions : Value :=
  .object [("id", .text "prey"), ("army_id", .text "lions"), ("state", .text "vow"),
    ("choice_value", .text "beast")]

def vowText : String :=
  "\x7b\"kind\": \"choice\", \"id\": \"vow\", \"name\": \"Vow\", \"scope\": \"army\", " ++
    "\"choice\": \x7b\"id\": \"vow\", \"prompt\": \"Prey?\", " ++
    "\"options\": [\x7b\"v\": \"beast\", \"label\": \"Beast\"\x7d]\x7d\x7d"

def duelText (states : String) : String :=
  "\x7b\"id\": \"1\", \"attacker\": \x7b\"id\": \"wolf\", \"army_id\": \"wolves\"\x7d, " ++
    "\"defender\": \x7b\"id\": \"lion\", \"army_id\": \"lions\"\x7d, " ++
    "\"weapon\": \x7b\"name\": \"Bow\", \"A\": \"0\"\x7d, " ++
    "\"attacker_rules\": [\"vow\"], \"defender_rules\": [\"vow\"], " ++
    "\"army_states\": [" ++ states ++ "]\x7d"

def preyText : String :=
  "\x7b\"id\": \"prey\", \"army_id\": \"lions\", \"state\": \"vow\", " ++
    "\"choice_value\": \"beast\"\x7d"

set_option maxRecDepth 2000 in
theorem strictContent_vowText : strictContent vowText = .ok vowValue := by
  have chars : vowText = String.ofList _ ++ String.ofList _ ++ String.ofList _ := rfl
  rw [strictContent, Value.readStrict, chars]
  simp only [← String.ofList_append, String.toList_ofList]
  rfl

set_option maxRecDepth 3000 in
theorem strictContent_duelText : strictContent (duelText "") = .ok (duelValue []) := by
  have chars : duelText "" = String.ofList _ ++ String.ofList _ ++ String.ofList _ ++
    String.ofList _ ++ String.ofList _ ++ String.ofList _ ++ String.ofList _ := rfl
  rw [strictContent, Value.readStrict, chars]
  simp only [← String.ofList_append, String.toList_ofList]
  rfl

set_option maxRecDepth 4000 in
theorem strictContent_duelText_prey :
    strictContent (duelText preyText) = .ok (duelValue [preyOfLions]) := by
  have chars : duelText preyText = String.ofList _ ++ String.ofList _ ++ String.ofList _ ++
    String.ofList _ ++ String.ofList _ ++ (String.ofList _ ++ String.ofList _) ++
    String.ofList _ := rfl
  rw [strictContent, Value.readStrict, chars]
  simp only [← String.ofList_append, String.toList_ofList]
  rfl

/-- Some resolution is open whose rule has the name. -/
def Resolution.awaits (resolutions : List Resolution) (name : String) : Bool :=
  resolutions.any fun resolution => resolution.isPending && resolution.rule.name == name

theorem Resolution.exists_of_awaits {resolutions : List Resolution} {name : String}
    (awaits : Resolution.awaits resolutions name = true) :
    ∃ resolution ∈ resolutions, resolution.isPending = true ∧ resolution.rule.name = name := by
  simpa [Resolution.awaits] using awaits

namespace CommandLine

/-- A content folder with the rule and with the duel as its scenario. -/
def arena (states : String) : Surroundings where
  folder := {
    files := [⟨⟨["rules", "vow.json"]⟩, vowText⟩,
      ⟨⟨["scenarios", "duel.json"]⟩, duelText states⟩] }

theorem engine_arena {states : String} {scenario : Value}
    (documents : (arena states).folder.documents ⟨[]⟩ =
      .ok [⟨⟨["rules", "vow.json"]⟩, strictContent vowText⟩,
        ⟨⟨["scenarios", "duel.json"]⟩, strictContent (duelText states)⟩])
    (held : strictContent (duelText states) = .ok scenario) :
    (arena states).engine (some ⟨[]⟩) = Session.attempt (do
      let catalogue ← Catalogue.load
        [⟨⟨["rules", "vow.json"]⟩, .ok vowValue⟩,
          ⟨⟨["scenarios", "duel.json"]⟩, .ok scenario⟩] ⟨[]⟩
      return { catalogue }) := by
  rw [strictContent_vowText, held] at documents
  have started : (arena states).engine (some ⟨[]⟩) = Session.attempt (do
      let catalogue ← Catalogue.load (← (arena states).folder.documents ⟨[]⟩) ⟨[]⟩
      return { catalogue }) :=
    rfl
  rw [started, documents]
  rfl

theorem scenario_of_word {surroundings : Surroundings} {target : String}
    (word : (Path.ofText target).isDocument = false) (engine : Engine) :
    surroundings.scenario engine target = Surroundings.catalogued engine target := by
  unfold Surroundings.scenario
  simp [word]

theorem splitOn_one : "1".splitOn "/" = ["1"] := by
  rw [String.splitOn, if_neg (by decide), String.splitOnAux, if_neg (by decide),
    if_neg (by decide), String.splitOnAux, if_pos (by decide)]
  rfl

theorem scenario_arena (states : String) (engine : Engine) :
    (arena states).scenario engine "1" = Surroundings.catalogued engine "1" := by
  refine scenario_of_word ?_ engine
  rw [Path.ofText, splitOn_one]
  decide

/-- As long as neither army has named its prey, the choice of the attacker is waited for. -/
theorem duel_names_vow : ∃ outcome combat lines,
    simulateScenario (arena "") "1" false none (some ⟨[]⟩) = .ok outcome ∧
    (arena "").combat "1" false (some ⟨[]⟩) = .ok combat ∧
    Command.run (arena "") (.simulate "1" false none (some ⟨[]⟩)) = .ofLines lines ∧
    ∃ resolution ∈ combat.attacker.resolutions, resolution.isPending = true ∧
      resolution.rule.name = "Vow" ∧ NamesAwaited lines resolution.rule := by
  have engine := engine_arena (by rfl) strictContent_duelText
  have succeeds : (simulateScenario (arena "") "1" false none (some ⟨[]⟩)).toOption.map
      (·.ending) = some .success := by
    simp only [simulateScenario, engine, scenario_arena]
    decide +kernel
  have shown : ((arena "").combat "1" false (some ⟨[]⟩)).toOption.map (fun combat =>
      Resolution.awaits combat.attacker.resolutions "Vow" &&
      (Resolution.applied combat.defender.resolutions).isEmpty) = some true := by
    simp only [Surroundings.combat, engine, scenario_arena]
    decide +kernel
  obtain ⟨outcome, resolved, -⟩ := exists_ok_of_shown succeeds
  obtain ⟨combat, lines, found, printed, -, choices⟩ := simulate_names_open_choices resolved
  rw [found] at shown
  obtain ⟨awaits, noneApplied⟩ := Bool.and_eq_true_iff.mp (Option.some.inj shown)
  obtain ⟨resolution, member, pending, named⟩ := Resolution.exists_of_awaits awaits
  obtain ⟨-, awaited, printedName⟩ := choices resolution member pending
  refine ⟨outcome, combat, lines, resolved, found, printed, resolution, member, pending,
    named, printedName (awaited.mpr ?_)⟩
  rw [List.isEmpty_iff.mp noneApplied]
  exact List.not_mem_nil

/-- When the defender has named its prey, nothing is waited for any more, although the choice of
the attacker is still open. -/
theorem duelWithPrey_hides_vow :
    ∃ combat, (arena preyText).combat "1" false (some ⟨[]⟩) = .ok combat ∧
      (Command.run (arena preyText) (.simulate "1" false none (some ⟨[]⟩))).ending =
        .success ∧
      ∃ resolution ∈ combat.attacker.resolutions, resolution.isPending = true ∧
        resolution.rule ∈ combat.visibleRules ∧ resolution.rule.name = "Vow" ∧
        ¬ NamesAwaited ((Command.run (arena preyText)
          (.simulate "1" false none (some ⟨[]⟩))).output.map .ok) resolution.rule := by
  have engine := engine_arena (by rfl) strictContent_duelText_prey
  have ran : Command.run (arena preyText) (.simulate "1" false none (some ⟨[]⟩)) =
      { output := ["wolf -> lion with Bow (S4 AP0)", "  attacks: 0", "  hit 3+: 0",
        "  wound 4+: 0", "  save 3+: 0; armour save", "  damage: 0", "  fnp: 0",
        "Applied rules: Vow", (Summary.mk 0 0 0 0 0 0 0 0).text] } := by
    simp only [Command.run, simulateScenario, engine, scenario_arena]
    decide +kernel
  have shown : ((arena preyText).combat "1" false (some ⟨[]⟩)).toOption.map
      (fun combat => Resolution.awaits combat.attacker.resolutions "Vow") = some true := by
    simp only [Surroundings.combat, engine, scenario_arena]
    decide +kernel
  obtain ⟨combat, found, awaits⟩ := exists_ok_of_shown shown
  obtain ⟨resolution, member, pending, named⟩ := Resolution.exists_of_awaits awaits
  refine ⟨combat, found, by rw [ran], resolution, member, pending,
    PreparedCombat.mem_visibleRules_of_isPending member pending, named,
    fun printed => ?_⟩
  have announced := printed.any_isPrefixOf
  rw [ran] at announced
  exact absurd announced (by decide +kernel)

end CommandLine

end Skirmish
