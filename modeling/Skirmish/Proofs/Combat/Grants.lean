import Skirmish.Proofs.Combat.Reachable
import Skirmish.Proofs.Rulebook.Display
import Skirmish.Proofs.Rulebook.Stats

/-!
# Granted abilities in step with the ledger

An ability is granted in two places: the ledger gains an entry under the stat of the
ability, and the board keeps the ability itself.  Only the actions that grant abilities
write such stats, and they write both, so on every board that evaluation leads to the
entries of an ability's stat and the abilities kept under it are equally many.

What reads the grants may then rely on either place.  A granted ability of the weapon is
among the keywords in effect from then on, and a player reads one text for each grant.
-/

namespace Skirmish

/-! ## Stats of abilities -/

/-- The beginnings of the stats under which abilities are granted. -/
def abilityBeginnings : List String := ["weaponAbility:", "unitAbility:"]

/-- The stat is one under which abilities are granted. -/
def isAbilityStat (stat : String) : Bool :=
  abilityBeginnings.any fun start => start.toList.isPrefixOf stat.toList

theorem isAbilityStat_eq (stat : String) :
    isAbilityStat stat = ((PrintedKeyword.after? "weaponAbility:" stat.toList).or
      (PrintedKeyword.after? "unitAbility:" stat.toList)).isSome := by
  rw [Option.isSome_or, PrintedKeyword.isSome_after?, PrintedKeyword.isSome_after?]
  simp [isAbilityStat, abilityBeginnings]

theorem isPrefixOf_append (start rest : String) :
    start.toList.isPrefixOf (start ++ rest).toList = true := by
  rw [List.isPrefixOf_iff_prefix, String.toList_append]
  exact List.prefix_append _ _

theorem isAbilityStat_append {start : String} (member : start ∈ abilityBeginnings)
    (key : String) : isAbilityStat (start ++ key) = true :=
  List.any_eq_true.mpr ⟨start, member, isPrefixOf_append start key⟩

theorem exists_eq_append_of_isPrefixOf {start text : String}
    (shared : start.toList.isPrefixOf text.toList = true) : ∃ rest, text = start ++ rest := by
  obtain ⟨rest, same⟩ := List.isPrefixOf_iff_prefix.mp shared
  refine ⟨String.ofList rest, String.toList_injective ?_⟩
  rw [String.toList_append, String.toList_ofList, same]

theorem isAbilityStat_eq_false {stat : String}
    (foreign : stat.toList.take 2 ∉ abilityBeginnings.map (·.toList.take 2)) :
    isAbilityStat stat = false := by
  rw [Bool.eq_false_iff]
  intro own
  obtain ⟨start, member, shared⟩ := List.any_eq_true.mp own
  obtain ⟨key, same⟩ := List.isPrefixOf_iff_prefix.mp shared
  have long : ∀ start ∈ abilityBeginnings, 2 ≤ start.toList.length := by decide
  refine foreign (List.mem_map.mpr ⟨start, member, ?_⟩)
  rw [← same, List.take_append_of_le_length (long start member)]

theorem Ability.isAbilityStat_stat (ability : Ability) : isAbilityStat ability.stat = true := by
  cases ability <;> exact isAbilityStat_append (by decide) _

theorem Ability.stat_eq_weapon_iff {ability : Ability} {key : String} :
    ability.stat = "weaponAbility:" ++ key ↔
      ∃ own : WeaponAbility, ability = .weapon own ∧ own.key = key := by
  cases ability with
  | weapon own => simp [stat]
  | unit own =>
      refine iff_of_false (fun same => ?_) (by simp)
      have begins := congrArg (fun text => text.toList.take 2) same
      simp only [stat] at begins
      rw [take_grant (by decide), take_grant (by decide)] at begins
      exact absurd begins (by decide)

theorem Ability.stat_eq_unit_iff {ability : Ability} {key : String} :
    ability.stat = "unitAbility:" ++ key ↔
      ∃ own : UnitAbility, ability = .unit own ∧ own.key = key := by
  cases ability with
  | unit own => simp [stat]
  | weapon own =>
      refine iff_of_false (fun same => ?_) (by simp)
      have begins := congrArg (fun text => text.toList.take 2) same
      simp only [stat] at begins
      rw [take_grant (by decide), take_grant (by decide)] at begins
      exact absurd begins (by decide)

/-! ## What an action grants -/

namespace Action

variable {action : Action}

theorem entry_of_granted {ability : Ability} (granted : action.granted? = some ability) :
    action.entry = ⟨ability.stat, 1, .set⟩ := by
  cases action <;> cases granted <;> rfl

theorem isAbilityStat_entry_of_none (none : action.granted? = none) :
    isAbilityStat action.entry.stat = false := by
  have plain : ∀ stat ∈ plainStats, isAbilityStat stat = false := by decide
  cases action with
  | addWeaponAbility | addUnitAbility => cases none
  | addKeyword keyword value =>
      refine isAbilityStat_eq_false ?_
      rw [entry, take_grant (by decide)]
      decide
  | modWeaponStat stat add | modDefensiveStat stat add | setDefensiveStat stat n =>
      exact plain _ (by cases stat <;> simp [entry, plainStats, Vocabulary.word])
  | reroll phase kind => cases phase <;> cases kind <;> decide
  | _ => exact plain _ (by simp [entry, plainStats])

end Action

/-! ## The two places of a grant -/

/-- Under the stat there are as many entries as abilities, and all entries are ones. -/
structure Board.Paired (board : Board) (stat : String) : Prop where
  length : (board.ledger.entriesFor stat).length = (board.grantedUnder stat).length
  value : ∀ entry ∈ board.ledger.entriesFor stat, entry.value = .int 1

/-- The entries for abilities and the abilities that were granted are in step, key by key,
and no ability was granted under another stat. -/
structure Board.InStep (board : Board) : Prop where
  weapon : ∀ key, board.Paired ("weaponAbility:" ++ key)
  unit : ∀ key, board.Paired ("unitAbility:" ++ key)
  weaponKey : ∀ key, ∀ ability ∈ board.grantedUnder ("weaponAbility:" ++ key),
    ∃ own : WeaponAbility, ability = .weapon own ∧ own.key = key
  unitKey : ∀ key, ∀ ability ∈ board.grantedUnder ("unitAbility:" ++ key),
    ∃ own : UnitAbility, ability = .unit own ∧ own.key = key
  noOther : ∀ ability ∈ board.granted, ∃ key,
    ability.stat = "weaponAbility:" ++ key ∨ ability.stat = "unitAbility:" ++ key

/-- Each deed writes the stat of an ability as often as it grants an ability of that stat. -/
theorem length_filter_deeds {stat : String} (own : isAbilityStat stat = true)
    (deeds : List Deed) :
    ((deeds.map Deed.modifier).filter (·.stat == stat)).length =
      ((deeds.flatMap (·.action.granted?.toList)).filter (·.stat == stat)).length := by
  induction deeds with
  | nil => rfl
  | cons deed rest ih =>
      rw [List.map_cons, List.flatMap_cons, List.filter_append, List.length_append, ← ih,
        List.filter_cons]
      cases granted : deed.action.granted? with
      | none =>
          have foreign : ¬ (deed.modifier.stat == stat) = true := by
            intro same
            have none := Action.isAbilityStat_entry_of_none granted
            rw [← beq_iff_eq.mp same] at own
            exact Bool.false_ne_true (none.symm.trans own)
          rw [if_neg foreign]
          simp
      | some ability =>
          have same : deed.modifier.stat = ability.stat :=
            congrArg Entry.stat (Action.entry_of_granted granted)
          rw [same, Option.toList_some, List.filter_cons, List.filter_nil]
          split <;> simp [Nat.add_comm]

/-- On an empty board, deeds keep the entries of each stat of an ability and the abilities
granted under it paired. -/
theorem Board.Gains.paired {view : View} {trace : Trace} {board : Board} {deeds : List Deed}
    {stat : String} (gains : (view.board trace).Gains deeds board)
    (own : isAbilityStat stat = true) : board.Paired stat := by
  have granted : board.granted = deeds.flatMap (·.action.granted?.toList) := gains.granted
  constructor
  · rw [gains.entriesFor, Board.grantedUnder, granted]
    exact length_filter_deeds own deeds
  · intro entry member
    rw [gains.entriesFor, List.mem_filter, beq_iff_eq] at member
    obtain ⟨written, rfl⟩ := member
    obtain ⟨deed, -, rfl⟩ := List.mem_map.mp written
    cases grants : deed.action.granted? with
    | none => exact absurd own (by simp [Deed.modifier, Action.modifier,
        Action.isAbilityStat_entry_of_none grants])
    | some ability =>
        exact congrArg (fun entry => Number.int entry.value) (Action.entry_of_granted grants)

theorem View.Leads.paired {view : View} {trace : Trace} {board : Board} {stat : String}
    (leads : view.Leads (view.board trace) board) (own : isAbilityStat stat = true) :
    board.Paired stat := by
  obtain ⟨deeds, gains⟩ := leads.exists_gains
  exact gains.paired own

theorem View.Leads.inStep {view : View} {trace : Trace} {board : Board}
    (leads : view.Leads (view.board trace) board) : board.InStep where
  weapon key := leads.paired (isAbilityStat_append (by decide) key)
  unit key := leads.paired (isAbilityStat_append (by decide) key)
  weaponKey key ability member :=
    Ability.stat_eq_weapon_iff.mp (beq_iff_eq.mp (List.mem_filter.mp member).2)
  unitKey key ability member :=
    Ability.stat_eq_unit_iff.mp (beq_iff_eq.mp (List.mem_filter.mp member).2)
  noOther ability _ := by
    cases ability with
    | weapon own => exact ⟨own.key, .inl rfl⟩
    | unit own => exact ⟨own.key, .inr rfl⟩

/-! ## Grants in effect -/

section

variable {view : View} {trace : Trace} {board later : Board} {ability : WeaponAbility}

theorem Keywords.includes_of_coveredBy {keywords : Keywords}
    (covered : ability.asPrinted.CoveredBy keywords) : keywords.includes ability = true := by
  cases ability with
  | anti keyword threshold =>
      exact List.any_eq_true.mpr ⟨(keyword, threshold), covered, beq_self_eq_true _⟩
  | flag id => exact List.contains_iff_mem.mpr covered
  | _ => exact decide_eq_true covered

/-- The keywords in effect can be told when the printed ones can be read. -/
theorem Board.exists_keywords_iff (board : Board) :
    (∃ keywords, board.keywords view = .ok keywords) ↔ view.IsLegible := by
  simp only [Board.keywords, Keywords.effective_eq, map_eq_ok_iff, View.IsLegible]
  constructor
  · rintro ⟨_, printed, read, -⟩
    exact ⟨printed, read⟩
  · rintro ⟨printed, read⟩
    exact ⟨_, printed, read, rfl⟩

theorem Board.Paired.has {stat : String} (paired : board.Paired stat)
    (granted : board.grantedUnder stat ≠ []) :
    stat ∈ board.ledger.stats ∧ board.ledger.has stat = true := by
  have some : board.ledger.entriesFor stat ≠ [] := fun none => granted <| by
    rw [← List.length_eq_zero_iff, ← paired.length, none, List.length_nil]
  constructor
  · by_contra absent
    exact some (Ledger.entriesFor_eq_nil absent)
  · obtain ⟨entry, member⟩ := List.exists_mem_of_ne_nil _ some
    refine List.any_eq_true.mpr ⟨entry, member, ?_⟩
    rw [paired.value entry member]
    rfl

/-- The keywords in effect have what each granted ability of the weapon says. -/
theorem Board.InStep.covers {keywords : Keywords} (inStep : board.InStep)
    (granted : .weapon ability ∈ board.granted)
    (merged : board.keywords view = .ok keywords) : ability.asPrinted.CoveredBy keywords := by
  rw [Board.keywords, Keywords.effective_eq] at merged
  obtain ⟨printed, -, rfl⟩ := map_eq_ok_iff.mp merged
  have kept : .weapon ability ∈ board.grantedUnder (Ability.weapon ability).stat :=
    List.mem_filter.mpr ⟨granted, beq_self_eq_true _⟩
  have stat := (inStep.weapon ability.key).has (List.ne_nil_of_mem kept)
  refine (Keywords.foldl_merge_above _ _).2 _ ?_
  exact List.mem_flatMap.mpr ⟨_, List.mem_filter.mpr stat, Keywords.asPrinted_mem_said granted⟩

theorem View.Leads.within (leads : view.Leads board later) : board.Within later :=
  leads.related fun source => view.respects_within source

theorem View.Leads.trans {start : Board} (leads : view.Leads start board)
    (further : view.Leads board later) : view.Leads start later := by
  induction further with
  | start => exact leads
  | evaluated rule _ ih => exact ih.evaluated rule

/-- A condition that asks for a granted ability of the weapon holds, and goes on to hold,
exactly when the printed keywords can be read. -/
theorem Condition.judge_weaponHasAbility_iff (inStep : board.InStep)
    (granted : .weapon ability ∈ board.granted) :
    ((Condition.weaponHasAbility ability).judge view board).outcome = .ok true ↔
      view.IsLegible := by
  rw [← board.exists_keywords_iff]
  simp only [judge, judgeLeaf, map_eq_ok_iff]
  constructor
  · rintro ⟨keywords, merged, -⟩
    exact ⟨keywords, merged⟩
  · rintro ⟨keywords, merged⟩
    exact ⟨keywords, merged, Keywords.includes_of_coveredBy (inStep.covers granted merged)⟩

end

/-! ## What a player reads -/

/-- The stat is one of a keyword or of an ability. -/
def isGrantStat (stat : String) : Bool :=
  grantBeginnings.any fun start => start.toList.isPrefixOf stat.toList

/-- If the modifier is one of a keyword and its amount is above zero, the amount is not too
large for a floating number. -/
def Modifier.HasPlainAmount (entry : Modifier) : Prop :=
  "keyword:".toList.isPrefixOf entry.stat.toList = true → entry.value.isPositive = true →
    ∃ amount, entry.value.toFloat? = some amount

/-- All that was granted can be shown: the amounts of keywords and the numbers of abilities. -/
structure Board.IsShowable (board : Board) : Prop where
  amounts : ∀ entry ∈ board.ledger.entries, entry.HasPlainAmount
  numbers : ∀ ability ∈ board.granted, ability.IsWritable

theorem Modifier.exists_shownKeyword_iff {name : String} {entry : Modifier} :
    (∃ text, entry.shownKeyword name = .ok text) ↔
      (entry.value.isPositive = true → ∃ amount, entry.value.toFloat? = some amount) := by
  unfold shownKeyword
  cases entry.value.isPositive <;> cases entry.value.toFloat? <;> simp

theorem Ability.shown_eq_ok_iff {ability : Ability} {text : String} :
    ability.shown = .ok text ↔ ability.IsWritable ∧ ability.display = text := by
  have written := @writable_eq_ok_iff ability.number?.toList
  simp only [Option.mem_toList] at written
  simp only [shown, map_eq_ok_iff, IsWritable, Option.mem_def]
  rw [← written]
  exact ⟨fun ⟨_, writes, same⟩ => ⟨writes, same⟩, fun ⟨writes, same⟩ => ⟨(), writes, same⟩⟩

theorem Ability.exists_shown_iff {ability : Ability} :
    (∃ text, ability.shown = .ok text) ↔ ability.IsWritable :=
  ⟨fun ⟨_, shows⟩ => (shown_eq_ok_iff.mp shows).1,
    fun small => ⟨_, shown_eq_ok_iff.mpr ⟨small, rfl⟩⟩⟩

theorem isAbilityStat_keyword (name : String) : isAbilityStat ("keyword:" ++ name) = false := by
  refine isAbilityStat_eq_false ?_
  rw [take_grant (by decide)]
  decide

theorem isGrantStat_cases {stat : String} (grant : isGrantStat stat = true) :
    (∃ name, stat = "keyword:" ++ name) ∨ isAbilityStat stat = true := by
  obtain ⟨start, member, shared⟩ := List.any_eq_true.mp grant
  rcases List.mem_cons.mp member with rfl | member
  · exact .inl (exists_eq_append_of_isPrefixOf shared)
  · exact .inr (List.any_eq_true.mpr ⟨start, member, shared⟩)

namespace Board

variable {board : Board} {stat : String}

theorem displayStat_keyword (board : Board) (name : String) :
    board.displayStat ("keyword:" ++ name) =
      (board.ledger.entriesFor ("keyword:" ++ name)).mapM (Modifier.shownKeyword name) := by
  have found : PrintedKeyword.after? "keyword:" ("keyword:" ++ name).toList =
      some name.toList :=
    PrintedKeyword.after?_eq_some_iff.mpr String.toList_append
  simp only [displayStat, found, String.ofList_toList]

theorem after?_keyword_eq_none (foreign : "keyword:".toList.isPrefixOf stat.toList = false) :
    PrintedKeyword.after? "keyword:" stat.toList = none := by
  rw [← PrintedKeyword.isSome_after?] at foreign
  exact Option.not_isSome_iff_eq_none.mp (Bool.eq_false_iff.mp foreign)

theorem Paired.displayStat_eq (paired : board.Paired stat) (own : isAbilityStat stat = true) :
    board.displayStat stat = (board.grantedUnder stat).mapM Ability.shown := by
  have notKeyword : PrintedKeyword.after? "keyword:" stat.toList = none := by
    refine after?_keyword_eq_none (Bool.eq_false_iff.mpr fun shared => ?_)
    obtain ⟨name, rfl⟩ := exists_eq_append_of_isPrefixOf shared
    exact Bool.false_ne_true ((isAbilityStat_keyword name).symm.trans own)
  rw [isAbilityStat_eq] at own
  obtain ⟨key, found⟩ := Option.isSome_iff_exists.mp own
  simp only [displayStat, notKeyword, found]
  cases granted : board.grantedUnder stat with
  | nil =>
      -- Without an ability there is no entry either, so nothing is granted.
      have none : board.ledger.entriesFor stat = [] := by
        rw [← List.length_eq_zero_iff, paired.length, granted, List.length_nil]
      have lacks : board.ledger.has stat = false := by rw [Ledger.has, none, List.any_nil]
      rw [lacks]
      rfl
  | cons ability rest =>
      have has := (paired.has (granted ▸ List.cons_ne_nil ability rest)).2
      rw [has]
      rfl

theorem displayStat_of_foreign (foreign : isGrantStat stat = false) :
    board.displayStat stat = .ok [] := by
  simp only [isGrantStat, grantBeginnings, List.any_cons, List.any_nil, Bool.or_false,
    Bool.or_eq_false_iff] at foreign
  obtain ⟨notKeyword, notWeapon, notUnit⟩ := foreign
  have notAbility : isAbilityStat stat = false := by
    simp only [isAbilityStat, abilityBeginnings, List.any_cons, List.any_nil, Bool.or_false,
      notWeapon, notUnit]
  rw [isAbilityStat_eq] at notAbility
  simp only [displayStat, after?_keyword_eq_none notKeyword,
    Option.not_isSome_iff_eq_none.mp (Bool.eq_false_iff.mp notAbility)]

end Board

/-! ## One text for each grant -/

/-- The modifier is one of a keyword or of an ability. -/
def Modifier.isGrant (modifier : Modifier) : Bool :=
  isGrantStat modifier.stat

section

variable {view : View} {trace : Trace} {board : Board} {stat : String}
  (leads : view.Leads (view.board trace) board)
include leads

/-- Each stat shows one text for each of its entries if it is one of a grant, and otherwise
nothing. -/
theorem View.Leads.length_of_displayStat {shown : List String}
    (displays : board.displayStat stat = .ok shown) :
    shown.length = (board.ledger.entriesFor stat).countP Modifier.isGrant := by
  have ofStat : ∀ entry ∈ board.ledger.entriesFor stat, entry.isGrant = isGrantStat stat :=
    fun entry member => congrArg isGrantStat (leads.stat_of_mem_entriesFor stat entry member)
  cases grant : isGrantStat stat with
  | false =>
      rw [board.displayStat_of_foreign grant, Except.ok.injEq] at displays
      have none : (board.ledger.entriesFor stat).countP Modifier.isGrant = 0 :=
        List.countP_eq_zero.mpr fun entry member own =>
          Bool.false_ne_true ((ofStat entry member ▸ grant).symm.trans own)
      rw [← displays, none, List.length_nil]
  | true =>
      have all : (board.ledger.entriesFor stat).countP Modifier.isGrant =
          (board.ledger.entriesFor stat).length :=
        List.countP_eq_length.mpr fun entry member => (ofStat entry member).trans grant
      rw [all]
      rcases isGrantStat_cases grant with ⟨name, rfl⟩ | own
      · rw [board.displayStat_keyword name, mapM_eq_ok_iff] at displays
        exact displays.length_eq.symm
      · have paired := leads.paired own
        rw [paired.displayStat_eq own, mapM_eq_ok_iff] at displays
        exact displays.length_eq.symm.trans paired.length.symm

/-- Whether a stat can be shown depends on its entries if it is one of a keyword, and else on
the abilities granted under it. -/
theorem View.Leads.exists_displayStat_iff :
    (∃ shown, board.displayStat stat = .ok shown) ↔
      (∀ entry ∈ board.ledger.entriesFor stat, entry.HasPlainAmount) ∧
      ∀ ability ∈ board.grantedUnder stat, ability.IsWritable := by
  have ofStat := leads.stat_of_mem_entriesFor stat
  cases own : isAbilityStat stat with
  | true =>
      have notKeyword : ∀ entry ∈ board.ledger.entriesFor stat,
          ¬ "keyword:".toList.isPrefixOf entry.stat.toList = true := by
        intro entry member shared
        obtain ⟨name, same⟩ := exists_eq_append_of_isPrefixOf shared
        rw [← ofStat entry member, same, isAbilityStat_keyword] at own
        exact Bool.false_ne_true own
      rw [(leads.paired own).displayStat_eq own, exists_mapM_iff]
      simp only [Ability.exists_shown_iff]
      exact (and_iff_right fun entry member shared => absurd shared (notKeyword entry member)).symm
  | false =>
      have none : board.grantedUnder stat = [] := by
        refine List.filter_eq_nil_iff.mpr fun ability _ same => ?_
        rw [← beq_iff_eq.mp same, ability.isAbilityStat_stat] at own
        exact Bool.false_ne_true own.symm
      rw [none, and_iff_left (List.forall_mem_nil _)]
      cases grant : isGrantStat stat with
      | true =>
          obtain ⟨name, rfl⟩ := (isGrantStat_cases grant).resolve_right
            (Bool.eq_false_iff.mp own)
          rw [board.displayStat_keyword name, exists_mapM_iff]
          simp only [Modifier.exists_shownKeyword_iff]
          refine forall₂_congr fun entry member => ?_
          rw [Modifier.HasPlainAmount, ofStat entry member]
          exact ⟨fun known _ => known, fun known => known (isPrefixOf_append "keyword:" name)⟩
      | false =>
          refine iff_of_true ⟨[], board.displayStat_of_foreign grant⟩ ?_
          intro entry member shared
          rw [ofStat entry member] at shared
          have keyword : isGrantStat stat = true :=
            List.any_eq_true.mpr ⟨"keyword:", by decide, shared⟩
          exact absurd (grant.symm.trans keyword) Bool.false_ne_true

end

theorem length_flatten_of_forall₂ {board : Board} {stats : List String}
    {rows : List (List String)}
    (alike : List.Forall₂ (fun stat shown =>
      shown.length = (board.ledger.entriesFor stat).countP Modifier.isGrant) stats rows) :
    rows.flatten.length = (stats.flatMap board.ledger.entriesFor).countP Modifier.isGrant := by
  induction alike with
  | nil => rfl
  | cons here _ ih =>
      rw [List.flatten_cons, List.length_append, List.flatMap_cons, List.countP_append, here, ih]

/-- A player reads one text for each grant in the ledger. -/
theorem View.Leads.length_of_displayGranted {view : View} {trace : Trace} {board : Board}
    {lines : List String} (leads : view.Leads (view.board trace) board)
    (displays : board.displayGranted = .ok lines) :
    lines.length = board.ledger.entries.countP Modifier.isGrant := by
  obtain ⟨_, -, holds, -⟩ := leads.exists_holds
  obtain ⟨rows, shown, rfl⟩ := map_eq_ok_iff.mp displays
  rw [Ledger.entries_eq_flatMap holds.distinct]
  refine length_flatten_of_forall₂ ((mapM_eq_ok_iff.mp shown).imp fun stat shown displays => ?_)
  exact leads.length_of_displayStat displays

/-- A player can read what was granted when all of it can be shown. -/
theorem View.Leads.exists_displayGranted_iff {view : View} {trace : Trace} {board : Board}
    (leads : view.Leads (view.board trace) board) :
    (∃ lines, board.displayGranted = .ok lines) ↔ board.IsShowable := by
  obtain ⟨_, -, holds, -⟩ := leads.exists_holds
  have rows : (∃ lines, board.displayGranted = .ok lines) ↔
      ∀ stat ∈ board.ledger.stats, ∃ shown, board.displayStat stat = .ok shown := by
    rw [← exists_mapM_iff]
    simp only [Board.displayGranted, map_eq_ok_iff]
    exact ⟨fun ⟨_, rows, shown, _⟩ => ⟨rows, shown⟩, fun ⟨rows, shown⟩ => ⟨_, rows, shown, rfl⟩⟩
  rw [rows]
  simp only [leads.exists_displayStat_iff]
  constructor
  · intro each
    constructor
    · intro entry member
      rw [Ledger.entries_eq_flatMap holds.distinct] at member
      obtain ⟨stat, listed, member⟩ := List.mem_flatMap.mp member
      exact (each stat listed).1 entry member
    · intro ability granted
      have kept : ability ∈ board.grantedUnder ability.stat :=
        List.mem_filter.mpr ⟨granted, beq_self_eq_true _⟩
      have paired := leads.paired ability.isAbilityStat_stat
      have listed := (paired.has (List.ne_nil_of_mem kept)).1
      exact (each ability.stat listed).2 ability kept
  · rintro ⟨amounts, numbers⟩ stat listed
    constructor
    · intro entry member
      refine amounts entry ?_
      rw [Ledger.entries_eq_flatMap holds.distinct]
      exact List.mem_flatMap.mpr ⟨stat, listed, member⟩
    · intro ability kept
      exact numbers ability (List.mem_of_mem_filter kept)

/-! ## All together -/

/-- On every board that evaluation leads to, the abilities that were granted are in step with
the ledger.  So each granted ability of the weapon is among the keywords in effect, there and
on every board that evaluation leads to from there; a condition that asks for it holds
exactly when the keywords printed on the weapon can be read.  A player reads one text for
each grant, when all of them can be shown. -/
theorem Board.grants_stay_in_step {view : View} {trace : Trace} {board : Board}
    (leads : view.Leads (view.board trace) board) :
    board.InStep ∧
    (∀ ability : WeaponAbility, .weapon ability ∈ board.granted →
      ∀ later, view.Leads board later →
        (((Condition.weaponHasAbility ability).judge view later).outcome = .ok true ↔
          view.IsLegible) ∧
        (view.IsLegible → ∃ keywords, later.keywords view = .ok keywords ∧
          ability.asPrinted.CoveredBy keywords)) ∧
    ((∃ lines, board.displayGranted = .ok lines) ↔ board.IsShowable) ∧
    ∀ lines, board.displayGranted = .ok lines →
      lines.length = board.ledger.entries.countP Modifier.isGrant := by
  refine ⟨leads.inStep, fun ability granted later further => ?_,
    leads.exists_displayGranted_iff, fun lines => leads.length_of_displayGranted⟩
  have inStep := (leads.trans further).inStep
  have stillGranted := further.within.granted granted
  refine ⟨Condition.judge_weaponHasAbility_iff inStep stillGranted, fun legible => ?_⟩
  obtain ⟨keywords, merged⟩ := later.exists_keywords_iff.mpr legible
  exact ⟨keywords, merged, inStep.covers stillGranted merged⟩

open Rule (chargingView couching thrusting)

/-- Once the lance is couched, the spear is one, and still is when the rule that asks for it
was evaluated, too.  A player reads of it in the one entry that was granted. -/
theorem Board.couching_stays_in_step :
    ∃ board later, chargingView.Leads (chargingView.board none) board ∧
      chargingView.Leads board later ∧ .weapon (.flag .lance) ∈ board.granted ∧
      board.InStep ∧
      ((Condition.weaponHasAbility (.flag .lance)).judge chargingView later).outcome =
        .ok true ∧
      (∃ keywords, later.keywords chargingView = .ok keywords ∧
        .ability .lance ∈ keywords.flags) ∧
      board.displayGranted = .ok ["Lance"] ∧
      board.ledger.entries.countP Modifier.isGrant = 1 := by
  have leads : chargingView.Leads (chargingView.board none) _ := .evaluated couching .start
  have further : chargingView.Leads (outcomeOf (couching.evaluate chargingView)
      (chargingView.board none)).2 _ := .evaluated thrusting .start
  have granted : (.weapon (.flag .lance) : Ability) ∈ (outcomeOf (couching.evaluate chargingView)
      (chargingView.board none)).2.granted := by
    decide +kernel
  have shown : (outcomeOf (couching.evaluate chargingView)
      (chargingView.board none)).2.displayGranted.toOption.map id = some ["Lance"] := by
    decide +kernel
  obtain ⟨_, displays, rfl⟩ := exists_ok_of_shown shown
  have legible : chargingView.IsLegible := ⟨{}, rfl⟩
  obtain ⟨inStep, inEffect, -, oneEach⟩ := grants_stay_in_step leads
  obtain ⟨holds, merges⟩ := inEffect (.flag .lance) granted _ further
  exact ⟨_, _, leads, further, granted, inStep, holds.mpr legible, merges legible, displays,
    (oneEach _ displays).symm⟩

/-- The charge with a spear that has a number printed on it, of a digit too many. -/
def illegibleView : View :=
  { chargingView with weapon :=
    { name := "Spear"
      keywords := [(WeaponAbility.rapidFire (Text.numeralBound : Nat)).display] } }

/-- What is printed on the weapon can keep a granted ability from being found. -/
theorem Board.illegible_lance_is_not_found :
    ∃ board, illegibleView.Leads (illegibleView.board none) board ∧
      .weapon (.flag .lance) ∈ board.granted ∧
      ((Condition.weaponHasAbility (.flag .lance)).judge illegibleView board).outcome ≠
        .ok true := by
  have leads : illegibleView.Leads (illegibleView.board none) _ := .evaluated couching .start
  have granted : (.weapon (.flag .lance) : Ability) ∈
      (outcomeOf (couching.evaluate illegibleView) (illegibleView.board none)).2.granted := by
    decide +kernel
  refine ⟨_, leads, granted, fun found => ?_⟩
  obtain ⟨printed, reads⟩ := (Condition.judge_weaponHasAbility_iff leads.inStep granted).mp found
  obtain ⟨_, row, -⟩ := Keywords.ofPrinted_eq_ok_iff.mp reads
  cases row with
  | cons first _ =>
      obtain ⟨fault, oversized⟩ :=
        @PrintedKeyword.numbered_toDigits_of_large _ .rapidFire (le_refl Text.numeralBound)
      rw [PrintedKeyword.read_of_rapidFire (WeaponAbility.toList_display_rapidFire _),
        oversized] at first
      cases first

end Skirmish
