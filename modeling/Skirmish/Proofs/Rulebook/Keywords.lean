import Skirmish.Proofs.Runs
import Skirmish.Rulebook.Keywords

/-!
# The order of merged keywords

Merged keywords lie within others that have all their flags, at least their numbers
and all their keywords against categories.  To merge a printed keyword makes the least
keywords that lie above the old ones and cover the printed one, so the order of
merging does not matter, and whatever is granted besides only adds to them.
-/

namespace Skirmish

namespace Keywords

/-- The other keywords have at least what these have. -/
structure Within (keywords other : Keywords) : Prop where
  rapidFire : keywords.rapidFire ≤ other.rapidFire
  sustainedHits : keywords.sustainedHits ≤ other.sustainedHits
  melta : keywords.melta ≤ other.melta
  anti : keywords.anti ⊆ other.anti
  flags : keywords.flags ⊆ other.flags

namespace Within

variable {keywords other last : Keywords}

theorem refl (keywords : Keywords) : keywords.Within keywords :=
  ⟨Int.le_refl _, Int.le_refl _, Int.le_refl _, List.Subset.refl _, List.Subset.refl _⟩

theorem trans (first : keywords.Within other) (second : other.Within last) :
    keywords.Within last :=
  ⟨Int.le_trans first.rapidFire second.rapidFire,
    Int.le_trans first.sustainedHits second.sustainedHits,
    Int.le_trans first.melta second.melta, List.Subset.trans first.anti second.anti,
    List.Subset.trans first.flags second.flags⟩

end Within

/-- The keywords come to the same in every attack: they only list their thresholds against
categories in different orders, or more than once. -/
structure Alike (keywords other : Keywords) : Prop where
  has : ∀ flag, keywords.has flag = other.has flag
  rapidFire : keywords.rapidFire = other.rapidFire
  sustainedHits : keywords.sustainedHits = other.sustainedHits
  melta : keywords.melta = other.melta
  antiThreshold? : ∀ categories,
    keywords.antiThreshold? categories = other.antiThreshold? categories

theorem min?_eq_of_subset {first second : List Int} (within : first ⊆ second)
    (back : second ⊆ first) : first.min? = second.min? := by
  cases found : first.min? with
  | none =>
      rw [List.min?_eq_none_iff] at found
      subst found
      rw [List.eq_nil_of_subset_nil back]
      rfl
  | some least =>
      rw [List.min?_eq_some_iff] at found
      symm
      rw [List.min?_eq_some_iff]
      exact ⟨within found.1, fun other member => found.2 other (back member)⟩

theorem Alike.of_within {keywords other : Keywords} (within : keywords.Within other)
    (back : other.Within keywords) : keywords.Alike other where
  has flag := by
    rw [Bool.eq_iff_iff, Keywords.has, Keywords.has, List.contains_iff_mem,
      List.contains_iff_mem]
    exact ⟨fun member => within.flags member, fun member => back.flags member⟩
  rapidFire := Int.le_antisymm within.rapidFire back.rapidFire
  sustainedHits := Int.le_antisymm within.sustainedHits back.sustainedHits
  melta := Int.le_antisymm within.melta back.melta
  antiThreshold? categories :=
    min?_eq_of_subset
      (List.map_subset _ (List.filter_subset _ within.anti))
      (List.map_subset _ (List.filter_subset _ back.anti))

end Keywords

/-- The keywords have what a printed keyword says. -/
def PrintedKeyword.CoveredBy (keywords : Keywords) : PrintedKeyword → Prop
  | .rapidFire x => x ≤ keywords.rapidFire
  | .sustainedHits x => x ≤ keywords.sustainedHits
  | .melta x => x ≤ keywords.melta
  | .anti keyword threshold => (keyword, threshold) ∈ keywords.anti
  | .flag own => own ∈ keywords.flags

theorem PrintedKeyword.after?_eq_some_iff {start : String} {chars rest : List Char} :
    after? start chars = some rest ↔ chars = start.toList ++ rest := by
  unfold after?
  constructor
  · intro found
    split at found
    · rename_i shared
      obtain ⟨own, same⟩ := List.isPrefixOf_iff_prefix.mp shared
      rw [← same, List.drop_left' String.length_toList, Option.some.injEq] at found
      rw [← same, found]
    · cases found
  · rintro rfl
    have shared : start.toList.isPrefixOf (start.toList ++ rest) = true :=
      List.isPrefixOf_iff_prefix.mpr (List.prefix_append _ _)
    rw [if_pos shared, List.drop_left' String.length_toList]

theorem PrintedKeyword.isSome_after? (start : String) (chars : List Char) :
    (after? start chars).isSome = start.toList.isPrefixOf chars := by
  unfold after?
  split
  · rename_i shared
    exact shared.symm
  · rename_i differs
    exact (Bool.eq_false_iff.mpr differs).symm

/-- The ability in the terms of printed keywords. -/
def WeaponAbility.asPrinted : WeaponAbility → PrintedKeyword
  | .rapidFire x => .rapidFire x
  | .sustainedHits x => .sustainedHits x
  | .melta x => .melta x
  | .anti keyword threshold => .anti keyword threshold
  | .flag id => .flag (.ability id)

namespace Keywords

variable {keywords other : Keywords}

theorem setFlag_within_iff {flag : KeywordFlag} :
    (keywords.setFlag flag).Within other ↔ keywords.Within other ∧ flag ∈ other.flags := by
  unfold setFlag
  by_cases already : keywords.has flag = true
  · have member : flag ∈ keywords.flags := by simpa [has] using already
    rw [if_pos already]
    exact ⟨fun within => ⟨within, within.flags member⟩, fun both => both.1⟩
  · rw [if_neg already]
    constructor
    · rintro ⟨rapidFire, sustainedHits, melta, anti, flags⟩
      obtain ⟨old, new⟩ := List.append_subset.mp flags
      exact ⟨⟨rapidFire, sustainedHits, melta, anti, old⟩, new (by simp)⟩
    · rintro ⟨⟨rapidFire, sustainedHits, melta, anti, flags⟩, member⟩
      exact ⟨rapidFire, sustainedHits, melta, anti,
        List.append_subset.mpr ⟨flags, by simpa using member⟩⟩

/-- To merge a printed keyword is to take the least keywords above both. -/
theorem merge_within_iff {printed : PrintedKeyword} :
    (keywords.merge printed).Within other ↔
      keywords.Within other ∧ printed.CoveredBy other := by
  cases printed with
  | rapidFire x =>
      constructor
      · rintro ⟨rapidFire, sustainedHits, melta, anti, flags⟩
        obtain ⟨old, new⟩ := Int.max_le.mp rapidFire
        exact ⟨⟨old, sustainedHits, melta, anti, flags⟩, new⟩
      · rintro ⟨⟨rapidFire, sustainedHits, melta, anti, flags⟩, covered⟩
        exact ⟨Int.max_le.mpr ⟨rapidFire, covered⟩, sustainedHits, melta, anti, flags⟩
  | sustainedHits x =>
      constructor
      · rintro ⟨rapidFire, sustainedHits, melta, anti, flags⟩
        obtain ⟨old, new⟩ := Int.max_le.mp sustainedHits
        exact ⟨⟨rapidFire, old, melta, anti, flags⟩, new⟩
      · rintro ⟨⟨rapidFire, sustainedHits, melta, anti, flags⟩, covered⟩
        exact ⟨rapidFire, Int.max_le.mpr ⟨sustainedHits, covered⟩, melta, anti, flags⟩
  | melta x =>
      constructor
      · rintro ⟨rapidFire, sustainedHits, melta, anti, flags⟩
        obtain ⟨old, new⟩ := Int.max_le.mp melta
        exact ⟨⟨rapidFire, sustainedHits, old, anti, flags⟩, new⟩
      · rintro ⟨⟨rapidFire, sustainedHits, melta, anti, flags⟩, covered⟩
        exact ⟨rapidFire, sustainedHits, Int.max_le.mpr ⟨melta, covered⟩, anti, flags⟩
  | anti keyword threshold =>
      constructor
      · rintro ⟨rapidFire, sustainedHits, melta, anti, flags⟩
        obtain ⟨old, new⟩ := List.append_subset.mp anti
        have covered := new (List.mem_singleton.mpr rfl)
        exact ⟨⟨rapidFire, sustainedHits, melta, old, flags⟩, covered⟩
      · rintro ⟨⟨rapidFire, sustainedHits, melta, anti, flags⟩, covered⟩
        exact ⟨rapidFire, sustainedHits, melta,
          List.append_subset.mpr ⟨anti, List.cons_subset.mpr ⟨covered, List.nil_subset _⟩⟩, flags⟩
  | flag flag => exact setFlag_within_iff

theorem foldl_merge_within_iff {said : List PrintedKeyword} :
    (said.foldl merge keywords).Within other ↔
      keywords.Within other ∧ ∀ printed ∈ said, printed.CoveredBy other := by
  induction said generalizing keywords with
  | nil => simp
  | cons printed said ih =>
      rw [List.foldl_cons, ih, merge_within_iff, List.forall_mem_cons, and_assoc]

theorem foldl_merge_above (said : List PrintedKeyword) (keywords : Keywords) :
    keywords.Within (said.foldl merge keywords) ∧
      ∀ printed ∈ said, printed.CoveredBy (said.foldl merge keywords) :=
  foldl_merge_within_iff.mp (Within.refl _)

/-! ## Granted keywords -/

/-- What a stat of the ledger grants, in the terms of printed keywords. -/
def said (granted : List Ability) (stat : String) : List PrintedKeyword :=
  match PrintedKeyword.after? "weaponAbility:" stat.toList with
  | none => []
  | some key =>
    match (Vocabulary.ofWord? (String.ofList key) : Option WeaponFlag) with
    | some flag => [.flag (.ability flag)]
    | none => (granted.filter (·.stat == stat)).filterMap ofAbility?

theorem mergeGrant_eq (granted : List Ability) (keywords : Keywords) (stat : String) :
    keywords.mergeGrant granted stat = (said granted stat).foldl merge keywords := by
  unfold mergeGrant said
  cases PrintedKeyword.after? "weaponAbility:" stat.toList with
  | none => rfl
  | some key =>
      dsimp only
      cases (Vocabulary.ofWord? (String.ofList key) : Option WeaponFlag) <;> rfl

theorem said_subset {granted more : List Ability} (within : granted ⊆ more) (stat : String) :
    said granted stat ⊆ said more stat := by
  unfold said
  split
  · exact List.Subset.refl _
  · split
    · exact List.Subset.refl _
    · exact List.filterMap_subset _ (List.filter_subset _ within)

/-- What the stat of an ability says: a flag is said by the stat itself, and a number by each
ability granted under it. -/
theorem said_stat (granted : List Ability) (ability : WeaponAbility) :
    said granted (Ability.weapon ability).stat =
      match ability with
      | .flag id => [.flag (.ability id)]
      | _ => (granted.filter (·.stat == (Ability.weapon ability).stat)).filterMap ofAbility? := by
  have found : PrintedKeyword.after? "weaponAbility:" (Ability.weapon ability).stat.toList =
      some ability.key.toList :=
    PrintedKeyword.after?_eq_some_iff.mpr String.toList_append
  unfold said
  rw [found]
  dsimp only
  rw [String.ofList_toList]
  cases ability with
  | flag id => cases id <;> rfl
  | _ => rfl

theorem asPrinted_mem_said {granted : List Ability} {ability : WeaponAbility}
    (member : .weapon ability ∈ granted) :
    ability.asPrinted ∈ said granted (Ability.weapon ability).stat := by
  rw [said_stat]
  cases ability with
  | flag id => exact List.mem_singleton.mpr rfl
  | _ =>
      refine List.mem_filterMap.mpr ⟨_, List.mem_filter.mpr ⟨member, beq_self_eq_true _⟩, rfl⟩

/-- The keywords in effect are the printed ones, merged with what each stat that the
ledger has says. -/
theorem effective_eq (printed : List String) (ledger : Ledger) (granted : List Ability) :
    effective printed ledger granted =
      (ofPrinted printed).map fun keywords =>
        ((ledger.stats.filter ledger.has).flatMap (said granted)).foldl merge keywords := by
  have merged : ∀ (stats : List String) (keywords : Keywords),
      stats.foldl (mergeGrant granted) keywords =
        (stats.flatMap (said granted)).foldl merge keywords := by
    intro stats
    induction stats with
    | nil => intro keywords; rfl
    | cons stat stats ih =>
        intro keywords
        rw [List.foldl_cons, ih, mergeGrant_eq, List.flatMap_cons, List.foldl_append]
  unfold effective
  cases ofPrinted printed with
  | error fault => rfl
  | ok keywords => exact congrArg Except.ok (merged _ keywords)

theorem ofPrinted_eq_ok_iff {printed : List String} :
    ofPrinted printed = .ok keywords ↔
      ∃ said, List.Forall₂ (fun text known => PrintedKeyword.read text = .ok known) printed said ∧
        (said.filterMap id).foldl merge {} = keywords := by
  simp only [ofPrinted, bind_eq_ok_iff, mapM_eq_ok_iff, pure, Except.pure, Except.ok.injEq]

/-- Numbers of merged keywords are never below zero, which is where merging begins. -/
theorem empty_within_ofPrinted {printed : List String}
    (legible : ofPrinted printed = .ok keywords) : ({} : Keywords).Within keywords := by
  obtain ⟨said, -, rfl⟩ := ofPrinted_eq_ok_iff.mp legible
  exact (foldl_merge_above _ _).1

theorem sustainedHits_nonneg {printed : List String} {ledger : Ledger}
    {granted : List Ability} (merged : effective printed ledger granted = .ok keywords) :
    0 ≤ keywords.sustainedHits := by
  rw [effective_eq] at merged
  cases legible : ofPrinted printed with
  | error fault => simp [legible, Except.map] at merged
  | ok own =>
      simp only [legible, Except.map, Except.ok.injEq] at merged
      subst merged
      exact ((empty_within_ofPrinted legible).trans (foldl_merge_above _ _).1).sustainedHits

/-- With more stats in the ledger and more granted, the keywords in effect have at least
what they had. -/
theorem effective_within {printed : List String} {ledger more : Ledger}
    {granted others : List Ability}
    (stats : ∀ stat ∈ ledger.stats, ledger.has stat = true →
      stat ∈ more.stats ∧ more.has stat = true)
    (abilities : granted ⊆ others)
    (merged : effective printed ledger granted = .ok keywords)
    (mergedMore : effective printed more others = .ok other) : keywords.Within other := by
  rw [effective_eq] at merged mergedMore
  cases legible : ofPrinted printed with
  | error fault => simp [legible, Except.map] at merged
  | ok own =>
      simp only [legible, Except.map, Except.ok.injEq] at merged mergedMore
      subst merged mergedMore
      obtain ⟨aboveOwn, covered⟩ := foldl_merge_above
        ((more.stats.filter more.has).flatMap (said others)) own
      refine foldl_merge_within_iff.mpr ⟨aboveOwn, fun printed member => covered printed ?_⟩
      obtain ⟨stat, granting, saidThere⟩ := List.mem_flatMap.mp member
      obtain ⟨present, has⟩ := List.mem_filter.mp granting
      exact List.mem_flatMap.mpr ⟨stat, List.mem_filter.mpr (stats stat present has),
        said_subset abilities stat saidThere⟩

end Keywords

end Skirmish
