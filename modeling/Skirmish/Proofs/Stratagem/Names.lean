import Mathlib.Data.List.Infix
import Skirmish.Rulebook.Stratagem

/-!
# Whose stratagems are offered

A stratagem of a faction is meant for players of this faction, and one of a detachment for
those of this detachment.  Names are compared by their common letters and digits only.  A name
written without any of them, in another script for instance, is compared as the empty text,
which all names contain; so a stratagem under such a name is offered to players for whom it is
not meant.  These are all exceptions.
-/

namespace Skirmish.Stratagem

variable {catalogue : List Stratagem} {faction detachment : Option String}
  {stratagem : Stratagem}

/-! ## What is offered -/

theorem occursIn_iff {part whole : List Char} : occursIn part whole = true ↔ part <:+: whole := by
  induction whole with
  | nil => simp [occursIn]
  | cons c rest ih => simp [occursIn, ih, List.infix_cons_iff]

/-- The names of the stratagem's detachment: its own one and the aliases. -/
def detachmentNames (stratagem : Stratagem) : List (Option String) :=
  stratagem.detachment :: stratagem.detachmentAliases.map some

theorem suitsFaction_iff :
    stratagem.suitsFaction faction = true ↔ plainName faction ≠ [] ∧
      (plainName stratagem.faction <:+: plainName faction ∨
        plainName faction <:+: plainName stratagem.faction) := by
  simp [suitsFaction, occursIn_iff]

theorem suitsDetachment_iff :
    stratagem.suitsDetachment detachment = true ↔
      (isNamed stratagem.detachment = true →
        ∃ name ∈ stratagem.detachmentNames, plainName name = plainName detachment) := by
  cases named : isNamed stratagem.detachment <;>
    simp [suitsDetachment, detachmentNames, named]

theorem mem_available_iff :
    stratagem ∈ available catalogue faction detachment ↔
      stratagem ∈ catalogue ∧ (stratagem.isCore = true ∨
        stratagem.suitsFaction faction = true ∧
          stratagem.suitsDetachment detachment = true) := by
  simp [available]

/-! ## What is meant -/

/-- The stratagem is meant for players of a faction and a detachment: the faction's name and
the one on the stratagem are not empty and one contains the other, and if the stratagem names
a detachment, the player's detachment is not nameless and goes by one of its names. -/
structure IsMeantFor (stratagem : Stratagem) (faction detachment : Option String) : Prop where
  asked : plainName faction ≠ []
  named : plainName stratagem.faction ≠ []
  contained : plainName stratagem.faction <:+: plainName faction ∨
    plainName faction <:+: plainName stratagem.faction
  detachment : isNamed stratagem.detachment = true →
    plainName detachment ≠ [] ∧
      ∃ name ∈ stratagem.detachmentNames, plainName name = plainName detachment

/-- All names on the stratagem have common letters or digits. -/
structure HasPlainNames (stratagem : Stratagem) : Prop where
  faction : plainName stratagem.faction ≠ []
  detachment : isNamed stratagem.detachment = true →
    ∀ name ∈ stratagem.detachmentNames, plainName name ≠ []

/-- A stratagem of a faction that is offered is meant for the player, unless one of the names
that were compared is empty. -/
theorem isMeantFor_iff_of_mem_available
    (offered : stratagem ∈ available catalogue faction detachment)
    (restricted : stratagem.isCore = false) :
    stratagem.IsMeantFor faction detachment ↔
      plainName stratagem.faction ≠ [] ∧
        (isNamed stratagem.detachment = true → plainName detachment ≠ []) := by
  obtain ⟨-, core | ⟨ofFaction, ofDetachment⟩⟩ := mem_available_iff.mp offered
  · rw [restricted] at core
    cases core
  · obtain ⟨asked, contained⟩ := suitsFaction_iff.mp ofFaction
    rw [suitsDetachment_iff] at ofDetachment
    constructor
    · intro meant
      exact ⟨meant.named, fun given => (meant.detachment given).1⟩
    · rintro ⟨named, known⟩
      exact ⟨asked, named, contained, fun given => ⟨known given, ofDetachment given⟩⟩

theorem isMeantFor_of_hasPlainNames (plain : stratagem.HasPlainNames)
    (offered : stratagem ∈ available catalogue faction detachment)
    (restricted : stratagem.isCore = false) : stratagem.IsMeantFor faction detachment := by
  refine (isMeantFor_iff_of_mem_available offered restricted).mpr
    ⟨plain.faction, fun given => ?_⟩
  obtain ⟨-, core | ⟨-, ofDetachment⟩⟩ := mem_available_iff.mp offered
  · rw [restricted] at core
    cases core
  · obtain ⟨name, listed, same⟩ := suitsDetachment_iff.mp ofDetachment given
    rw [← same]
    exact plain.detachment given name listed

/-- A stratagem with a name that has no common letter or digit is offered to a player for whom
it is not meant: under an empty faction's name to a player of any other faction, and under an
empty detachment's name to a player of the faction without a detachment. -/
theorem exists_not_isMeantFor (listed : stratagem ∈ catalogue)
    (strange : ¬stratagem.HasPlainNames) :
    ∃ faction detachment, stratagem ∈ available catalogue faction detachment ∧
      ¬stratagem.IsMeantFor faction detachment := by
  by_cases nameless : plainName stratagem.faction = []
  · refine ⟨some "a", stratagem.detachment, mem_available_iff.mpr ⟨listed, .inr ⟨?_, ?_⟩⟩,
      fun meant => meant.named nameless⟩
    · rw [suitsFaction_iff, nameless]
      exact ⟨by decide, .inl (List.nil_infix)⟩
    · exact suitsDetachment_iff.mpr fun _ => ⟨_, List.mem_cons_self, rfl⟩
  · have empty : ∃ name ∈ stratagem.detachmentNames,
        isNamed stratagem.detachment = true ∧ plainName name = [] := by
      by_contra none
      push Not at none
      exact strange ⟨nameless, fun given name member => none name member given⟩
    obtain ⟨name, member, given, empty⟩ := empty
    refine ⟨stratagem.faction, none, mem_available_iff.mpr ⟨listed, .inr ⟨?_, ?_⟩⟩,
      fun meant => (meant.detachment given).1 rfl⟩
    · exact suitsFaction_iff.mpr ⟨nameless, .inl (List.infix_refl _)⟩
    · exact suitsDetachment_iff.mpr fun _ => ⟨name, member, empty⟩

/-- The stratagems of factions that a catalogue offers are meant for whoever asks, exactly when
all names on them have common letters or digits.  In any case an offered stratagem is meant for
the player who asks, unless the name of its faction has none of these, or the name of the
player's detachment has none although the stratagem is one of a detachment. -/
theorem available_isMeantFor_iff (catalogue : List Stratagem) :
    ((∀ faction detachment, ∀ stratagem ∈ available catalogue faction detachment,
        stratagem.isCore = false → stratagem.IsMeantFor faction detachment) ↔
      ∀ stratagem ∈ catalogue, stratagem.isCore = false → stratagem.HasPlainNames) ∧
    ∀ faction detachment, ∀ stratagem ∈ available catalogue faction detachment,
      stratagem.isCore = false →
        (stratagem.IsMeantFor faction detachment ↔
          plainName stratagem.faction ≠ [] ∧
            (isNamed stratagem.detachment = true → plainName detachment ≠ [])) := by
  refine ⟨⟨fun meant stratagem listed restricted => ?_,
      fun plain faction detachment stratagem offered restricted => ?_⟩,
    fun faction detachment stratagem offered restricted =>
      isMeantFor_iff_of_mem_available offered restricted⟩
  · by_contra strange
    obtain ⟨faction, detachment, offered, misfit⟩ := exists_not_isMeantFor listed strange
    exact misfit (meant faction detachment stratagem offered restricted)
  · have listed := (mem_available_iff.mp offered).1
    exact isMeantFor_of_hasPlainNames (plain stratagem listed restricted) offered restricted

/-- A stratagem of a detachment that goes by two names. -/
def sagaOfTheHunter : Stratagem where
  id := "marked-prey"
  name := "Marked Prey"
  faction := some "Space Wolves"
  detachment := some "Saga of the Hunter"
  detachmentAliases := ["Hunter's Saga"]

/-- The stratagem is offered under an alias, in another spelling, and is meant for the player. -/
theorem sagaOfTheHunter_isMeantFor :
    sagaOfTheHunter ∈
      available [sagaOfTheHunter] (some "the SPACE-WOLVES") (some "hunters saga") ∧
    sagaOfTheHunter.IsMeantFor (some "the SPACE-WOLVES") (some "hunters saga") := by
  have offered : sagaOfTheHunter ∈
      available [sagaOfTheHunter] (some "the SPACE-WOLVES") (some "hunters saga") := by
    decide +kernel
  have meant := (available_isMeantFor_iff [sagaOfTheHunter]).2 _ _ _ offered rfl
  exact ⟨offered, meant.mpr ⟨by decide +kernel, fun _ => by decide +kernel⟩⟩

/-- A stratagem of a faction whose name has no common letter. -/
def foreignFaction : Value :=
  .object [("id", .text "ambush"), ("name", .text "Ambush"), ("faction", .text "Орки")]

/-- A stratagem of a detachment whose name has no common letter. -/
def foreignDetachment : Value :=
  .object [("id", .text "marked-prey"), ("name", .text "Marked Prey"),
    ("faction", .text "Space Wolves"), ("detachment", .text "Сага")]

/-- Both stratagems pass the schema.  The first one is offered to the players of another faction,
and the second one to players of its faction who have no detachment. -/
theorem foreignNames_are_offered : ∃ ambush prey,
    Stratagem.read foreignFaction = .accepted ambush ∧
    Stratagem.read foreignDetachment = .accepted prey ∧
    ambush.isCore = false ∧ prey.isCore = false ∧
    ambush ∈ available [ambush, prey] (some "Tyranids") none ∧
    ¬ambush.IsMeantFor (some "Tyranids") none ∧
    prey ∈ available [ambush, prey] (some "Space Wolves") none ∧
    ¬prey.IsMeantFor (some "Space Wolves") none := by
  refine ⟨{ id := "ambush", name := "Ambush", faction := some "Орки" },
    { id := "marked-prey", name := "Marked Prey", faction := some "Space Wolves",
      detachment := some "Сага" }, rfl, rfl, rfl, rfl, by decide +kernel, fun meant => ?_,
    by decide +kernel, fun meant => ?_⟩
  · exact meant.named (by decide +kernel)
  · exact (meant.detachment (by decide +kernel)).1 (by decide +kernel)

end Skirmish.Stratagem
