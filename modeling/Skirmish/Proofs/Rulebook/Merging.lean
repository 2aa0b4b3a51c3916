import Mathlib.Data.List.Perm.Basic
import Mathlib.Logic.Relation
import Skirmish.Proofs.Rulebook.Printed

/-!
# Merging printed keywords

Of the printed keywords of a weapon only what each of them says counts, not the order, nor how
often or in which letters it is said.  A list of printed keywords that is made of two others
has the flags of both, the largest numbers and the least thresholds, so a further keyword
never takes anything away.
-/

namespace Skirmish

namespace Keywords

/-! ## What a list says -/

/-- One of the texts is read in this way. -/
def Says (texts : List String) (outcome : Except Fault (Option PrintedKeyword)) : Prop :=
  ∃ text ∈ texts, PrintedKeyword.read text = outcome

variable {texts others : List String} {keywords other : Keywords}

theorem says_append_iff {outcome : Except Fault (Option PrintedKeyword)} :
    Says (texts ++ others) outcome ↔ Says texts outcome ∨ Says others outcome := by
  simp only [Says, List.mem_append, or_and_right, exists_or]

theorem exists_ofPrinted_iff :
    (∃ keywords, ofPrinted texts = .ok keywords) ↔ ∀ fault, ¬ Says texts (.error fault) := by
  have merged : (∃ keywords, ofPrinted texts = .ok keywords) ↔
      ∃ said, texts.mapM PrintedKeyword.read = .ok said := by
    simp only [ofPrinted, bind_eq_ok_iff]
    constructor
    · rintro ⟨_, said, read, -⟩
      exact ⟨said, read⟩
    · rintro ⟨said, read⟩
      exact ⟨_, said, read, rfl⟩
  rw [merged, exists_mapM_iff]
  constructor
  · rintro legible fault ⟨text, member, read⟩
    obtain ⟨known, again⟩ := legible text member
    cases read.symm.trans again
  · intro legible text member
    cases read : PrintedKeyword.read text with
    | error fault => exact absurd ⟨text, member, read⟩ (legible fault)
    | ok known => exact ⟨known, rfl⟩

theorem mem_of_forall₂_read {said : List (Option PrintedKeyword)}
    (read : List.Forall₂ (fun text known => PrintedKeyword.read text = .ok known) texts said)
    {known : Option PrintedKeyword} : known ∈ said ↔ Says texts (.ok known) := by
  induction read with
  | nil => simp [Says]
  | cons here _ ih =>
      simp only [List.mem_cons, ih, Says, exists_eq_or_imp, here, Except.ok.injEq,
        eq_comm (a := known)]

/-- Merged keywords are the least ones that have all that the printed ones say. -/
theorem ofPrinted_within_iff (merged : ofPrinted texts = .ok keywords) :
    keywords.Within other ↔ ({} : Keywords).Within other ∧
      ∀ printed, Says texts (.ok (some printed)) → printed.CoveredBy other := by
  obtain ⟨said, read, rfl⟩ := ofPrinted_eq_ok_iff.mp merged
  rw [foldl_merge_within_iff]
  refine and_congr_right fun _ => forall_congr' fun printed => ?_
  rw [← mem_of_forall₂_read read, List.mem_filterMap]
  simp

/-! ## Rewritten lists -/

/-- The outcomes are keywords that come to the same, or neither of them is. -/
structure Agree (outcome other : Except Fault Keywords) : Prop where
  exists_iff : (∃ keywords, outcome = .ok keywords) ↔ ∃ keywords, other = .ok keywords
  alike : ∀ keywords again, outcome = .ok keywords → other = .ok again → keywords.Alike again

/-- The lists say the same, apart from what is passed over. -/
def SayTheSame (texts others : List String) : Prop :=
  ∀ outcome, outcome ≠ .ok none → (Says texts outcome ↔ Says others outcome)

theorem SayTheSame.agree (same : SayTheSame texts others) :
    Agree (ofPrinted texts) (ofPrinted others) where
  exists_iff := by
    simp only [exists_ofPrinted_iff]
    exact forall_congr' fun fault => not_congr (same (.error fault) nofun)
  alike keywords again merged mergedAgain := by
    have within {last : Keywords} : keywords.Within last ↔ again.Within last := by
      rw [ofPrinted_within_iff merged, ofPrinted_within_iff mergedAgain]
      refine and_congr_right fun _ => forall_congr' fun printed => ?_
      rw [same (.ok (some printed)) nofun]
    exact .of_within (within.mpr (.refl _)) (within.mp (.refl _))

/-- A list of printed keywords is rewritten in one place, or brought into another order. -/
inductive Rewritten : List String → List String → Prop
  | perm {texts others : List String} (perm : texts.Perm others) : Rewritten texts others
  | again (front back : List String) {text : String} (member : text ∈ front ++ back) :
      Rewritten (front ++ back) (front ++ text :: back)
  | recase (front back : List String) {text other : String}
      (recased : Text.Recased text.toList other.toList) :
      Rewritten (front ++ text :: back) (front ++ other :: back)
  | respace (front back : List String) {text other : String}
      (respaced : Text.Respaced text.toList other.toList) :
      Rewritten (front ++ text :: back) (front ++ other :: back)
  | passOver (front back : List String) {text : String}
      (unknown : ¬ PrintedKeyword.IsKnown (PrintedKeyword.plain text)) :
      Rewritten (front ++ back) (front ++ text :: back)

theorem says_insert_iff {front back : List String} {text : String}
    {outcome : Except Fault (Option PrintedKeyword)} :
    Says (front ++ text :: back) outcome ↔
      PrintedKeyword.read text = outcome ∨ Says (front ++ back) outcome := by
  simp only [Says, List.mem_append, List.mem_cons]
  constructor
  · rintro ⟨other, member | rfl | member, read⟩
    · exact .inr ⟨other, .inl member, read⟩
    · exact .inl read
    · exact .inr ⟨other, .inr member, read⟩
  · rintro (read | ⟨other, member | member, read⟩)
    · exact ⟨text, .inr (.inl rfl), read⟩
    · exact ⟨other, .inl member, read⟩
    · exact ⟨other, .inr (.inr member), read⟩

/-- A text in the place of one that is read alike says the same. -/
theorem sayTheSame_of_read_eq {front back : List String} {text other : String}
    (same : PrintedKeyword.read text = PrintedKeyword.read other) :
    SayTheSame (front ++ text :: back) (front ++ other :: back) := by
  intro outcome _
  rw [says_insert_iff, says_insert_iff, same]

theorem Rewritten.sayTheSame (rewritten : Rewritten texts others) : SayTheSame texts others := by
  cases rewritten with
  | perm perm =>
      exact fun outcome _ => exists_congr fun text => and_congr_left fun _ => perm.mem_iff
  | again front back member =>
      intro outcome _
      rw [says_insert_iff]
      exact ⟨.inr, fun said => said.elim (fun read => ⟨_, member, read⟩) id⟩
  | recase front back recased =>
      exact sayTheSame_of_read_eq (PrintedKeyword.read_eq_of_recased recased)
  | respace front back respaced =>
      exact sayTheSame_of_read_eq (PrintedKeyword.read_eq_of_respaced respaced)
  | passOver front back unknown =>
      intro outcome other
      rw [says_insert_iff, PrintedKeyword.read_eq_none_iff.mpr unknown]
      exact ⟨.inr, fun said => said.elim (fun same => absurd same.symm other) id⟩

theorem sayTheSame_of_eqvGen (rewritten : Relation.EqvGen Rewritten texts others) :
    SayTheSame texts others := by
  induction rewritten with
  | rel _ _ once => exact once.sayTheSame
  | refl _ => exact fun _ _ => Iff.rfl
  | symm _ _ _ ih => exact fun outcome other => (ih outcome other).symm
  | trans _ _ _ _ _ first second =>
      exact fun outcome other => (first outcome other).trans (second outcome other)

/-! ## Lists made of two -/

/-- The keywords have the flags of both, the larger numbers and the lower thresholds. -/
structure IsJoin (keywords first second : Keywords) : Prop where
  has : ∀ flag, keywords.has flag = (first.has flag || second.has flag)
  rapidFire : keywords.rapidFire = max first.rapidFire second.rapidFire
  sustainedHits : keywords.sustainedHits = max first.sustainedHits second.sustainedHits
  melta : keywords.melta = max first.melta second.melta
  antiThreshold? : ∀ categories, keywords.antiThreshold? categories =
    (first.antiThreshold? categories).merge min (second.antiThreshold? categories)

/-- The least keywords that have what either has. -/
def join (first second : Keywords) : Keywords where
  rapidFire := max first.rapidFire second.rapidFire
  sustainedHits := max first.sustainedHits second.sustainedHits
  melta := max first.melta second.melta
  anti := first.anti ++ second.anti
  flags := first.flags ++ second.flags

theorem join_within_iff {first second : Keywords} :
    (first.join second).Within other ↔ first.Within other ∧ second.Within other := by
  constructor
  · rintro ⟨rapidFire, sustainedHits, melta, anti, flags⟩
    obtain ⟨rapidFire, rapidFire'⟩ := Int.max_le.mp rapidFire
    obtain ⟨sustainedHits, sustainedHits'⟩ := Int.max_le.mp sustainedHits
    obtain ⟨melta, melta'⟩ := Int.max_le.mp melta
    obtain ⟨anti, anti'⟩ := List.append_subset.mp anti
    obtain ⟨flags, flags'⟩ := List.append_subset.mp flags
    exact ⟨⟨rapidFire, sustainedHits, melta, anti, flags⟩,
      ⟨rapidFire', sustainedHits', melta', anti', flags'⟩⟩
  · rintro ⟨one, two⟩
    exact ⟨Int.max_le.mpr ⟨one.rapidFire, two.rapidFire⟩,
      Int.max_le.mpr ⟨one.sustainedHits, two.sustainedHits⟩,
      Int.max_le.mpr ⟨one.melta, two.melta⟩, List.append_subset.mpr ⟨one.anti, two.anti⟩,
      List.append_subset.mpr ⟨one.flags, two.flags⟩⟩

theorem min?_append (first second : List Int) :
    (first ++ second).min? = first.min?.merge min second.min? := by
  cases first with
  | nil => simp
  | cons n first =>
      cases second with
      | nil => simp
      | cons m second =>
          simp only [List.cons_append, List.min?_cons', List.foldl_append, List.foldl_cons,
            List.foldl_assoc, Option.merge]

theorem isJoin_join (first second : Keywords) : (first.join second).IsJoin first second where
  has flag := List.contains_append
  rapidFire := rfl
  sustainedHits := rfl
  melta := rfl
  antiThreshold? categories := by
    simp only [Keywords.antiThreshold?, join, List.filter_append, List.map_append, min?_append]

theorem IsJoin.congr {first second again : Keywords} (join : again.IsJoin first second)
    (alike : keywords.Alike again) : keywords.IsJoin first second where
  has flag := (alike.has flag).trans (join.has flag)
  rapidFire := alike.rapidFire.trans join.rapidFire
  sustainedHits := alike.sustainedHits.trans join.sustainedHits
  melta := alike.melta.trans join.melta
  antiThreshold? categories :=
    (alike.antiThreshold? categories).trans (join.antiThreshold? categories)

theorem exists_ofPrinted_append_iff :
    (∃ keywords, ofPrinted (texts ++ others) = .ok keywords) ↔
      (∃ keywords, ofPrinted texts = .ok keywords) ∧
        ∃ keywords, ofPrinted others = .ok keywords := by
  simp only [exists_ofPrinted_iff, says_append_iff, not_or, forall_and]

theorem isJoin_of_append {first second : Keywords}
    (merged : ofPrinted (texts ++ others) = .ok keywords)
    (mergedFirst : ofPrinted texts = .ok first) (mergedSecond : ofPrinted others = .ok second) :
    keywords.IsJoin first second := by
  have within {last : Keywords} : keywords.Within last ↔ (first.join second).Within last := by
    rw [join_within_iff, ofPrinted_within_iff merged, ofPrinted_within_iff mergedFirst,
      ofPrinted_within_iff mergedSecond, ← and_and_left]
    refine and_congr_right fun _ => ?_
    simp only [says_append_iff, or_imp, forall_and]
  exact (isJoin_join first second).congr
    (.of_within (within.mpr (.refl _)) (within.mp (.refl _)))

/-- The other keywords take nothing away from these: they have their flags, numbers that are at
least as large, and thresholds that are at most as large. -/
structure AtMost (keywords other : Keywords) : Prop where
  has : ∀ flag, keywords.has flag = true → other.has flag = true
  rapidFire : keywords.rapidFire ≤ other.rapidFire
  sustainedHits : keywords.sustainedHits ≤ other.sustainedHits
  melta : keywords.melta ≤ other.melta
  antiThreshold? : ∀ categories threshold, keywords.antiThreshold? categories = some threshold →
    ∃ lower, other.antiThreshold? categories = some lower ∧ lower ≤ threshold

theorem Within.atMost (within : keywords.Within other) : keywords.AtMost other where
  has flag has := by
    rw [Keywords.has, List.contains_iff_mem] at has ⊢
    exact within.flags has
  rapidFire := within.rapidFire
  sustainedHits := within.sustainedHits
  melta := within.melta
  antiThreshold? categories threshold found := by
    have member := List.map_subset Prod.snd (List.filter_subset _ within.anti)
      (List.min?_eq_some_iff.mp found).1
    cases least : other.antiThreshold? categories with
    | none =>
        rw [List.min?_eq_none_iff.mp least] at member
        exact absurd member List.not_mem_nil
    | some lower => exact ⟨lower, rfl, (List.min?_eq_some_iff.mp least).2 _ member⟩

theorem atMost_of_insert {front back : List String} {text : String} {more : Keywords}
    (merged : ofPrinted (front ++ back) = .ok keywords)
    (mergedMore : ofPrinted (front ++ text :: back) = .ok more) : keywords.AtMost more := by
  obtain ⟨above, covered⟩ := (ofPrinted_within_iff mergedMore).mp (.refl _)
  refine Within.atMost ((ofPrinted_within_iff merged).mpr ⟨above, fun printed said => ?_⟩)
  exact covered printed (says_insert_iff.mpr (.inr said))

theorem exists_ofPrinted_insert_iff {front back : List String} {text : String} :
    (∃ more, ofPrinted (front ++ text :: back) = .ok more) ↔
      (∃ keywords, ofPrinted (front ++ back) = .ok keywords) ∧
        ∃ known, PrintedKeyword.read text = .ok known := by
  have legible : (∃ known, PrintedKeyword.read text = .ok known) ↔
      ∀ fault, PrintedKeyword.read text ≠ .error fault := by
    cases PrintedKeyword.read text <;> simp
  simp only [exists_ofPrinted_iff, says_insert_iff, not_or, forall_and, legible, Ne, and_comm]

/-! ## A semilattice -/

/-- Printed keywords come to the same however they are ordered and repeated, whichever of their
common letters are capitals, however many blanks they have, and whatever else is printed that
is passed over.  A further one takes nothing away, and two lists come to the join of what each
of them comes to.  A list comes to keywords when its parts do, that is, when all of it can be
read. -/
theorem ofPrinted_merges :
    (∀ texts others, Relation.EqvGen Rewritten texts others →
      Agree (ofPrinted texts) (ofPrinted others)) ∧
    (∀ front back text,
      ((∃ more, ofPrinted (front ++ text :: back) = .ok more) ↔
        (∃ keywords, ofPrinted (front ++ back) = .ok keywords) ∧
          ∃ known, PrintedKeyword.read text = .ok known) ∧
      ∀ keywords more, ofPrinted (front ++ back) = .ok keywords →
        ofPrinted (front ++ text :: back) = .ok more → keywords.AtMost more) ∧
    ∀ texts others,
      ((∃ keywords, ofPrinted (texts ++ others) = .ok keywords) ↔
        (∃ keywords, ofPrinted texts = .ok keywords) ∧
          ∃ keywords, ofPrinted others = .ok keywords) ∧
      ∀ keywords first second, ofPrinted (texts ++ others) = .ok keywords →
        ofPrinted texts = .ok first → ofPrinted others = .ok second →
        keywords.IsJoin first second := by
  refine ⟨fun texts others rewritten => (sayTheSame_of_eqvGen rewritten).agree,
    fun front back text => ⟨exists_ofPrinted_insert_iff, ?_⟩,
    fun texts others => ⟨exists_ofPrinted_append_iff, ?_⟩⟩
  · exact fun keywords more => atMost_of_insert
  · exact fun keywords first second => isJoin_of_append

/-- The keywords of a bolter are printed in another way: with other capitals and blanks, one of
them twice, and with a text that says nothing.  They come to the same, and a further keyword
is joined to them. -/
theorem bolter_printed_otherwise :
    let printed := ["Rapid Fire 2", "Anti-Infantry 4+"]
    let otherwise := ["  RAPID fire 2", "Sturdy", "Anti-Infantry  4+", "  RAPID fire 2"]
    let bolter : Keywords := { rapidFire := 2, anti := [("infantry", 4)] }
    let melta : Keywords := { melta := 1 }
    Relation.EqvGen Rewritten printed otherwise ∧
    ofPrinted printed = .ok bolter ∧ ofPrinted ["Melta 1"] = .ok melta ∧
    ∃ again more, ofPrinted otherwise = .ok again ∧ bolter.Alike again ∧
      ofPrinted (printed ++ ["Melta 1"]) = .ok more ∧ bolter.AtMost more ∧
      more.IsJoin bolter melta := by
  intro printed otherwise bolter melta
  have one : ∀ c ∈ [' '], Text.isBlank c = true := List.forall_mem_singleton.mpr (by decide)
  have two : ∀ c ∈ [' ', ' '], Text.isBlank c = true :=
    List.forall_mem_cons.mpr ⟨by decide, one⟩
  have recased : Rewritten printed ["RAPID fire 2", "Anti-Infantry 4+"] :=
    .recase [] _ (by decide)
  have trimmed : Rewritten ["  RAPID fire 2", "Anti-Infantry 4+"]
      ["RAPID fire 2", "Anti-Infantry 4+"] :=
    .respace [] _ (.trim [' ', ' '] "RAPID fire 2".toList [] two (List.forall_mem_nil _))
  have widened : Rewritten ["  RAPID fire 2", "Anti-Infantry 4+"]
      ["  RAPID fire 2", "Anti-Infantry  4+"] :=
    .respace ["  RAPID fire 2"] [] <| .widen "Anti-Infantry".toList [' '] [' ', ' ']
      "4+".toList (by decide) one (by decide) two
  have repeated : Rewritten ["  RAPID fire 2", "Anti-Infantry  4+"]
      ["  RAPID fire 2", "Anti-Infantry  4+", "  RAPID fire 2"] :=
    .again ["  RAPID fire 2", "Anti-Infantry  4+"] [] (by decide)
  have passedOver : Rewritten ["  RAPID fire 2", "Anti-Infantry  4+", "  RAPID fire 2"]
      otherwise :=
    .passOver ["  RAPID fire 2"] _ (PrintedKeyword.read_eq_none_iff.mp (by decide +kernel))
  have rewritten : Relation.EqvGen Rewritten printed otherwise :=
    (Relation.EqvGen.rel _ _ recased).trans _ _ _ <|
      (Relation.EqvGen.rel _ _ trimmed).symm.trans _ _ _ <|
      (Relation.EqvGen.rel _ _ widened).trans _ _ _ <|
      (Relation.EqvGen.rel _ _ repeated).trans _ _ _ (.rel _ _ passedOver)
  have merged : ofPrinted printed = .ok bolter := by decide +kernel
  have mergedMelta : ofPrinted ["Melta 1"] = .ok melta := by decide +kernel
  obtain ⟨agree, further, parts⟩ := ofPrinted_merges
  have agreed := agree printed otherwise rewritten
  obtain ⟨again, mergedAgain⟩ := agreed.exists_iff.mp ⟨bolter, merged⟩
  obtain ⟨legible, joined⟩ := parts printed ["Melta 1"]
  obtain ⟨more, mergedMore⟩ := legible.mpr ⟨⟨bolter, merged⟩, melta, mergedMelta⟩
  have whole : ofPrinted (printed ++ []) = .ok bolter := by
    rw [List.append_nil]
    exact merged
  exact ⟨rewritten, merged, mergedMelta, again, more, mergedAgain,
    agreed.alike bolter again merged mergedAgain, mergedMore,
    (further printed [] "Melta 1").2 bolter more whole mergedMore,
    joined more bolter melta mergedMore merged mergedMelta⟩

end Keywords

end Skirmish
