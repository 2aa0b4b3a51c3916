import Skirmish.Proofs.Content.Inspection
import Skirmish.Proofs.Rulebook.Parts

/-!
# Idle parts of rules

An inspection looks for parts that can have no effect in all conditions and effects of every
rule.  It gets through a rule unless an effect of unknown kind carries conditions, and then
it has reported every node of unknown kind.
-/

namespace Skirmish

open Inspection

/-! ## Condition nodes -/

namespace Effect

theorem conditionNodes_of_plain {effect : Effect} (plain : effect.IsPlain) :
    effect.conditionNodes = .ok ((effect.conditions.flatMap Condition.nodes).map some) := by
  cases effect with
  | known action limit conditions =>
      unfold conditionNodes
      simp only [Condition.nodesOfParts_eq]
      rfl
  | unknown kind extras =>
      have absent : rawConditions extras = .absent := plain
      unfold conditionNodes
      simp only [absent]
      rfl

theorem isPlain_of_conditionNodes {effect : Effect} {nodes : List (Option Condition)}
    (listed : effect.conditionNodes = .ok nodes) (read : none ∉ nodes) : effect.IsPlain := by
  cases effect with
  | known action limit conditions => trivial
  | unknown kind extras =>
      unfold conditionNodes at listed
      dsimp only at listed
      split at listed
      · assumption
      · cases listed
        exact (read (List.mem_singleton.mpr rfl)).elim
      · cases listed

theorem conditionNodesOfAll_of_plain {effects : List Effect}
    (plain : ∀ effect ∈ effects, effect.IsPlain) :
    conditionNodesOfAll effects =
      .ok (((effects.flatMap conditions).flatMap Condition.nodes).map some) := by
  induction effects with
  | nil => rfl
  | cons effect rest ih =>
      obtain ⟨here, there⟩ := List.forall_mem_cons.mp plain
      rw [conditionNodesOfAll, conditionNodes_of_plain here, ih there, List.flatMap_cons,
        List.flatMap_append, List.map_append]
      rfl

theorem isPlain_of_conditionNodesOfAll {effects : List Effect}
    {nodes : List (Option Condition)} (listed : conditionNodesOfAll effects = .ok nodes)
    (read : none ∉ nodes) : ∀ effect ∈ effects, effect.IsPlain := by
  induction effects generalizing nodes with
  | nil => exact fun _ member => (List.not_mem_nil member).elim
  | cons effect rest ih =>
      unfold conditionNodesOfAll at listed
      obtain ⟨here, listedHere, listed⟩ := bind_eq_ok_iff.mp listed
      obtain ⟨there, listedThere, same⟩ := bind_eq_ok_iff.mp listed
      cases same
      rw [List.mem_append, not_or] at read
      exact List.forall_mem_cons.mpr
        ⟨isPlain_of_conditionNodes listedHere read.1, ih listedThere read.2⟩

end Effect

namespace Block

mutual

theorem conditionNodes_of_plain : ∀ block : Block,
    (∀ effect ∈ block.effects, effect.IsPlain) →
      block.conditionNodes = .ok ((block.conditions.flatMap Condition.nodes).map some) := by
  intro block plain
  cases block with
  | perform effects =>
      unfold Block.effects at plain
      unfold conditionNodes Block.conditions
      exact Effect.conditionNodesOfAll_of_plain plain
  | guarded condition blocks =>
      unfold Block.effects at plain
      unfold conditionNodes Block.conditions
      rw [conditionNodesOfAll_of_plain blocks plain, List.flatMap_cons, List.map_append]
      rfl

theorem conditionNodesOfAll_of_plain : ∀ blocks : List Block,
    (∀ effect ∈ effectsOfAll blocks, effect.IsPlain) →
      conditionNodesOfAll blocks =
        .ok (((conditionsOfAll blocks).flatMap Condition.nodes).map some) := by
  intro blocks plain
  cases blocks with
  | nil =>
      unfold conditionNodesOfAll conditionsOfAll
      rfl
  | cons block rest =>
      unfold effectsOfAll at plain
      rw [List.forall_mem_append] at plain
      unfold conditionNodesOfAll conditionsOfAll
      rw [conditionNodes_of_plain block plain.1, conditionNodesOfAll_of_plain rest plain.2,
        List.flatMap_append, List.map_append]
      rfl

end

mutual

theorem isPlain_of_conditionNodes : ∀ (block : Block) {nodes : List (Option Condition)},
    block.conditionNodes = .ok nodes → none ∉ nodes →
      ∀ effect ∈ block.effects, effect.IsPlain := by
  intro block nodes listed read
  cases block with
  | perform effects =>
      unfold conditionNodes at listed
      unfold Block.effects
      exact Effect.isPlain_of_conditionNodesOfAll listed read
  | guarded condition blocks =>
      unfold conditionNodes at listed
      obtain ⟨there, listedThere, same⟩ := bind_eq_ok_iff.mp listed
      cases same
      rw [List.mem_append, not_or] at read
      unfold Block.effects
      exact isPlain_of_conditionNodesOfAll blocks listedThere read.2

theorem isPlain_of_conditionNodesOfAll : ∀ (blocks : List Block)
    {nodes : List (Option Condition)}, conditionNodesOfAll blocks = .ok nodes → none ∉ nodes →
      ∀ effect ∈ effectsOfAll blocks, effect.IsPlain := by
  intro blocks nodes listed read
  cases blocks with
  | nil =>
      unfold effectsOfAll
      exact fun _ member => (List.not_mem_nil member).elim
  | cons block rest =>
      unfold conditionNodesOfAll at listed
      obtain ⟨here, listedHere, listed⟩ := bind_eq_ok_iff.mp listed
      obtain ⟨there, listedThere, same⟩ := bind_eq_ok_iff.mp listed
      cases same
      rw [List.mem_append, not_or] at read
      unfold effectsOfAll
      exact List.forall_mem_append.mpr
        ⟨isPlain_of_conditionNodes block listedHere read.1,
          isPlain_of_conditionNodesOfAll rest listedThere read.2⟩

end

end Block

/-! ## Rules -/

/-- Inspected nodes were read, and those of unknown kind were reported. -/
theorem concludes_inspectNodes {file : Path} {rule : String} {recorded : List String}
    {nodes : List (Option Condition)} {findings : List Finding}
    (concluded : (inspectNodes file rule recorded nodes).Concludes findings ()) :
    none ∉ nodes ∧ ∀ kind extras, some (.unknown kind extras) ∈ nodes →
      .unknownCondition file rule kind ∈ findings := by
  induction nodes generalizing findings with
  | nil => simp
  | cons node rest ih =>
      unfold inspectNodes at concluded
      obtain ⟨early, _, late, here, there, rfl⟩ := concludes_bind_iff.mp concluded
      obtain ⟨readThere, reportedThere⟩ := ih there
      have readHere : node ≠ none := by
        rintro rfl
        cases (concludes_attempt_iff.mp here).2
      refine ⟨List.not_mem_cons_of_ne_of_not_mem readHere.symm readThere, ?_⟩
      intro kind extras member
      rcases List.mem_cons.mp member with rfl | later
      · rw [concludes_report_iff.mp here]
        exact List.mem_append_left _ (List.mem_singleton.mpr rfl)
      · exact List.mem_append_right _ (reportedThere kind extras later)

/-- An inspected rule carries no conditions that cannot be read, and all its nodes of unknown
kind were reported. -/
structure Reported (located : Located Rule) (findings : List Finding) : Prop where
  plain : ∀ effect ∈ Block.effectsOfAll located.record.blocks, effect.IsPlain
  conditions : ∀ kind, located.record.NamesUnknownCondition kind →
    .unknownCondition located.file located.record.id kind ∈ findings
  effects : ∀ kind, located.record.NamesUnknownEffect kind →
    .unknownEffect located.file located.record.id kind ∈ findings

theorem Reported.mono {located : Located Rule} {findings more : List Finding}
    (reported : Reported located findings) (subset : findings ⊆ more) :
    Reported located more where
  plain := reported.plain
  conditions kind names := subset (reported.conditions kind names)
  effects kind names := subset (reported.effects kind names)

theorem reported_of_inspectRule {recorded : List String} {located : Located Rule}
    {findings : List Finding}
    (concluded : (inspectRule recorded located).Concludes findings ()) :
    Reported located findings := by
  obtain ⟨_, nodes, _, attempted, inspecting, rfl⟩ := concludes_bind_iff.mp concluded
  obtain ⟨rfl, listed⟩ := concludes_attempt_iff.mp attempted
  obtain ⟨early, _, late, inspected, reporting, rfl⟩ := concludes_bind_iff.mp inspecting
  rw [concludes_report_iff.mp reporting]
  obtain ⟨read, reported⟩ := concludes_inspectNodes inspected
  rw [List.mem_append, not_or] at read
  have plain := Block.isPlain_of_conditionNodesOfAll _ listed read.2
  -- All effects are plain, so the nodes are those of all conditions.
  rw [Block.conditionNodesOfAll_of_plain _ plain] at listed
  cases listed
  constructor
  · exact plain
  · rintro kind ⟨condition, own, extras, named⟩
    refine List.mem_append_right _ (List.mem_append_left _ (reported kind extras ?_))
    rw [← List.map_append]
    refine List.mem_map_of_mem ?_
    rcases List.mem_cons.mp own with rfl | within
    · exact List.mem_append_left _ named
    · exact List.mem_append_right _ (List.mem_flatMap.mpr ⟨condition, within, named⟩)
  · rintro kind ⟨extras, member⟩
    refine List.mem_append_right _ (List.mem_append_right _ ?_)
    exact List.mem_filterMap.mpr ⟨_, member, rfl⟩

theorem reported_of_inspectRules {recorded : List String} {rules : List (Located Rule)}
    {findings : List Finding}
    (concluded : (inspectRules recorded rules).Concludes findings ()) :
    ∀ located ∈ rules, Reported located findings := by
  induction rules generalizing findings with
  | nil => exact fun _ member => (List.not_mem_nil member).elim
  | cons first rest ih =>
      unfold inspectRules at concluded
      obtain ⟨early, _, late, here, there, rfl⟩ := concludes_bind_iff.mp concluded
      refine List.forall_mem_cons.mpr ⟨?_, fun located member => ?_⟩
      · exact (reported_of_inspectRule here).mono (List.subset_append_left _ _)
      · exact (ih there located member).mono (List.subset_append_right _ _)

end Skirmish
