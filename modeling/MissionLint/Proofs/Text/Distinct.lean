import Mathlib.Data.List.Nodup
import MissionLint.Text

namespace MissionLint

/-!
# Distinct texts

Leaving out repeats keeps the first of equal members, or of members with equal keys, and
sorting what is left gives a list that depends on the members alone.
-/

section Repeats

variable {Item : Type} [BEq Item] [LawfulBEq Item]

/-- A member at the end is one more distinct member, unless it came before. -/
theorem eraseDups_concat
    [DecidableEq Item]
    (items : List Item)
    (item : Item) :
    (items ++ [item]).eraseDups =
      if item ∈ items then items.eraseDups else items.eraseDups ++ [item] := by
  rw [List.eraseDups_append]
  by_cases known : item ∈ items <;>
    simp [known, List.removeAll, List.eraseDups_cons]

/-- Without repeats the members stand in the order of their first places.  The last member is the
one that may be left out, so the induction takes it first. -/
theorem pairwise_idxOf_eraseDups
    (items : List Item) :
    items.eraseDups.Pairwise fun earlier later => items.idxOf earlier < items.idxOf later := by
  classical
  rw [← items.reverse_reverse]
  induction items.reverse with
  | nil =>
      simp
  | cons last earlier inductionHypothesis =>
      have samePlace {item : Item} (known : item ∈ earlier.reverse.eraseDups) :
          (earlier.reverse ++ [last]).idxOf item = earlier.reverse.idxOf item :=
        List.idxOf_append_of_mem (List.mem_eraseDups.mp known)
      have inOrder :
          earlier.reverse.eraseDups.Pairwise fun first second =>
            (earlier.reverse ++ [last]).idxOf first < (earlier.reverse ++ [last]).idxOf second := by
        refine inductionHypothesis.imp_of_mem fun isFirst isSecond precedes => ?_
        rwa [samePlace isFirst, samePlace isSecond]
      rw [List.reverse_cons, eraseDups_concat]
      split
      · exact inOrder
      case isFalse isNew =>
        refine List.pairwise_append.mpr ⟨inOrder, by simp, ?_⟩
        intro item isKnown other isLast
        have isInside := List.idxOf_lt_length_of_mem (List.mem_eraseDups.mp isKnown)
        rw [List.mem_singleton.mp isLast, samePlace isKnown, List.idxOf_append_of_notMem isNew]
        exact Nat.lt_of_lt_of_le isInside (Nat.le_add_right _ _)

/-- Without repeats no member comes twice. -/
theorem nodup_eraseDups
    (items : List Item) :
    items.eraseDups.Nodup := by
  refine (pairwise_idxOf_eraseDups items).imp ?_
  rintro item _ precedes rfl
  exact Nat.lt_irrefl _ precedes

end Repeats

section FirstOfKey

variable {Item : Type*} {Key : Type} [BEq Key] [LawfulBEq Key]
  {key : Item → Key} {items : List Item}

omit [LawfulBEq Key] in
/-- Keeping the first item of each key goes on with what has another key than the first. -/
theorem eraseDupsBy_induction
    (key : Item → Key)
    {motive : List Item → Prop}
    (nil : motive [])
    (cons : ∀ first rest,
      motive (rest.filter fun other => decide ((key other == key first) = false)) →
        motive (first :: rest))
    (items : List Item) :
    motive items := by
  induction length : items.length using Nat.strongRecOn generalizing items with
  | _ bound inductionHypothesis =>
      cases items with
      | nil =>
          exact nil
      | cons first rest =>
          refine cons first rest (inductionHypothesis _ ?_ _ rfl)
          rw [← length]
          exact Nat.lt_succ_of_le (List.length_filter_le _ _)

/-- Keeping the first item of each key keeps the items that are found under their own. -/
theorem mem_eraseDupsBy_iff
    {item : Item} :
    item ∈ items.eraseDupsBy (fun left right => key left == key right) ↔
      items.find? (fun other => key other == key item) = some item := by
  induction items using eraseDupsBy_induction key with
  | nil =>
      simp
  | cons first rest inductionHypothesis =>
      rw [List.eraseDupsBy_cons, List.mem_cons, inductionHypothesis]
      by_cases sameKey : key first = key item
      · have notLater :
            (rest.filter fun other => decide ((key other == key first) = false)).find?
              (fun other => key other == key item) = none := by
          simp +contextual [sameKey]
        rw [List.find?_cons_of_pos (by simpa using sameKey), notLater]
        simp only [reduceCtorEq, or_false, Option.some.injEq]
        exact eq_comm
      · have notFirst : item ≠ first := fun isFirst => sameKey (isFirst ▸ rfl)
        have sameSearch :
            (rest.filter fun other => decide ((key other == key first) = false)).find?
                (fun other => key other == key item) =
              rest.find? fun other => key other == key item := by
          rw [List.find?_filter]
          congr 1
          funext other
          rw [Bool.eq_iff_iff]
          simp only [decide_eq_true_eq, beq_eq_false_iff_ne, beq_iff_eq, and_iff_right_iff_imp]
          exact fun isItem => isItem ▸ Ne.symm sameKey
        rw [List.find?_cons_of_neg (by simpa using sameKey), sameSearch, or_iff_right notFirst]

omit [LawfulBEq Key] in
/-- The items that are kept stay in order. -/
theorem eraseDupsBy_sublist
    (key : Item → Key)
    (items : List Item) :
    (items.eraseDupsBy fun left right => key left == key right).Sublist items := by
  induction items using eraseDupsBy_induction key with
  | nil =>
      exact .slnil
  | cons first rest inductionHypothesis =>
      rw [List.eraseDupsBy_cons]
      exact (inductionHypothesis.trans List.filter_sublist).cons_cons first

/-- No two items that are kept have the same key. -/
theorem nodup_map_eraseDupsBy
    (key : Item → Key)
    (items : List Item) :
    ((items.eraseDupsBy fun left right => key left == key right).map key).Nodup := by
  induction items using eraseDupsBy_induction key with
  | nil =>
      simp
  | cons first rest inductionHypothesis =>
      rw [List.eraseDupsBy_cons, List.map_cons, List.nodup_cons]
      refine ⟨fun repeated => ?_, inductionHypothesis⟩
      obtain ⟨other, isKept, sameKey⟩ := List.mem_map.mp repeated
      have isLater := List.mem_of_find?_eq_some (mem_eraseDupsBy_iff.mp isKept)
      simp [sameKey] at isLater

omit [LawfulBEq Key] in
/-- The distinct keys of some items are those of the items that are kept. -/
theorem eraseDups_map
    (key : Item → Key)
    (items : List Item) :
    (items.map key).eraseDups =
      (items.eraseDupsBy fun left right => key left == key right).map key := by
  induction items using eraseDupsBy_induction key with
  | nil =>
      rfl
  | cons first rest inductionHypothesis =>
      rw [List.map_cons, List.eraseDups_cons, List.eraseDupsBy_cons, List.map_cons,
        ← inductionHypothesis, List.filter_map]
      simp only [Function.comp_def, Bool.decide_eq_false]

/-- Every key has an item that is kept. -/
theorem mem_map_eraseDupsBy_iff
    {sought : Key} :
    sought ∈ (items.eraseDupsBy fun left right => key left == key right).map key ↔
      sought ∈ items.map key := by
  constructor
  · intro isKept
    obtain ⟨item, kept, rfl⟩ := List.mem_map.mp isKept
    exact List.mem_map_of_mem (List.mem_of_find?_eq_some (mem_eraseDupsBy_iff.mp kept))
  · intro isKey
    obtain ⟨item, member, rfl⟩ := List.mem_map.mp isKey
    have isSome : (items.find? fun other => key other == key item).isSome = true :=
      List.find?_isSome.mpr ⟨item, member, beq_self_eq_true _⟩
    obtain ⟨first, found⟩ := Option.isSome_iff_exists.mp isSome
    have sameKey : key first = key item := by
      simpa using List.find?_some found
    rw [← sameKey] at found ⊢
    exact List.mem_map_of_mem (mem_eraseDupsBy_iff.mpr found)

omit [LawfulBEq Key] in
/-- Changing items under their keys changes those that are kept. -/
theorem eraseDupsBy_map
    (key : Item → Key)
    {change : Item → Item}
    (sameKey : ∀ item, key (change item) = key item)
    (items : List Item) :
    (items.map change).eraseDupsBy (fun left right => key left == key right) =
      (items.eraseDupsBy fun left right => key left == key right).map change := by
  induction items using eraseDupsBy_induction key with
  | nil =>
      simp
  | cons first rest inductionHypothesis =>
      rw [List.map_cons, List.eraseDupsBy_cons, List.eraseDupsBy_cons, List.map_cons,
        ← inductionHypothesis, List.filter_map]
      simp only [Function.comp_def, sameKey]

/-- Choosing items by their keys chooses among those that are kept. -/
theorem eraseDupsBy_filter
    (chosen : Key → Bool)
    (items : List Item) :
    (items.filter fun item => chosen (key item)).eraseDupsBy
        (fun left right => key left == key right) =
      (items.eraseDupsBy fun left right => key left == key right).filter
        fun item => chosen (key item) := by
  induction items using eraseDupsBy_induction key with
  | nil =>
      simp
  | cons first rest inductionHypothesis =>
      rw [List.eraseDupsBy_cons, List.filter_cons, List.filter_cons]
      split
      case isTrue =>
        rw [List.eraseDupsBy_cons, List.filter_comm, inductionHypothesis]
      case isFalse notChosen =>
        have sameChoice :
            (rest.filter fun other => decide ((key other == key first) = false)).filter
                (fun item => chosen (key item)) =
              rest.filter fun item => chosen (key item) := by
          rw [List.filter_filter]
          refine List.filter_congr fun item _ => ?_
          by_cases sameKey : key item = key first
          · simp [sameKey, notChosen]
          · simp [sameKey]
        rw [← inductionHypothesis, sameChoice]

/-- Of further items those are kept whose keys are new. -/
theorem eraseDupsBy_append
    (key : Item → Key)
    (items more : List Item) :
    (items ++ more).eraseDupsBy (fun left right => key left == key right) =
      (items.eraseDupsBy fun left right => key left == key right) ++
        (more.eraseDupsBy fun left right => key left == key right).filter
          fun item => !(items.map key).contains (key item) := by
  induction items using eraseDupsBy_induction key generalizing more with
  | nil =>
      simp
  | cons first rest inductionHypothesis =>
      have newKeys :
          ((more.filter fun item => decide ((key item == key first) = false)).eraseDupsBy
              fun left right => key left == key right).filter
              (fun item =>
                !((rest.filter fun other => decide ((key other == key first) = false)).map
                  key).contains (key item)) =
            (more.eraseDupsBy fun left right => key left == key right).filter
              fun item => !((first :: rest).map key).contains (key item) := by
        rw [eraseDupsBy_filter (fun other => decide ((other == key first) = false)),
          List.filter_filter]
        refine List.filter_congr fun item _ => ?_
        by_cases sameKey : key item = key first
        · simp [sameKey]
        · have known :
              key item ∈
                  (rest.filter fun other => decide ((key other == key first) = false)).map key ↔
                key item ∈ rest.map key := by
            refine ⟨fun member => (List.filter_sublist.map key).subset member, fun member => ?_⟩
            obtain ⟨other, isLater, same⟩ := List.mem_map.mp member
            have different : key other ≠ key first := same ▸ sameKey
            have isOther :
                other ∈ rest.filter fun other => decide ((key other == key first) = false) :=
              List.mem_filter.mpr ⟨isLater, by simpa using different⟩
            exact same ▸ List.mem_map_of_mem isOther
          rw [Bool.eq_iff_iff]
          simp only [List.map_cons, Bool.and_eq_true, Bool.not_eq_true', List.contains_eq_mem,
            decide_eq_false_iff_not, known, beq_eq_false_iff_ne, decide_eq_true_eq, ne_eq,
            List.mem_cons, not_or]
          exact and_comm
      rw [List.cons_append, List.eraseDupsBy_cons, List.filter_append, inductionHypothesis, newKeys,
        List.eraseDupsBy_cons, List.cons_append]

/-- Items with different keys are all kept. -/
theorem eraseDupsBy_eq_self
    (distinct : (items.map key).Nodup) :
    (items.eraseDupsBy fun left right => key left == key right) = items := by
  induction items with
  | nil =>
      simp
  | cons first rest inductionHypothesis =>
      obtain ⟨isNew, restDistinct⟩ := List.nodup_cons.mp distinct
      have others :
          (rest.filter fun other => decide ((key other == key first) = false)) = rest := by
        refine List.filter_eq_self.mpr fun other member => ?_
        have different : key other ≠ key first := fun same =>
          isNew (same ▸ List.mem_map_of_mem member)
        simpa using different
      rw [List.eraseDupsBy_cons, others, inductionHypothesis restDistinct]

/-- Among items with distinct keys, what is found under a key is the item that has it. -/
theorem find?_key_eq_some_iff
    (distinct : (items.map key).Nodup)
    {sought : Key}
    {item : Item} :
    items.find? (fun other => key other == sought) = some item ↔
      item ∈ items ∧ key item = sought := by
  constructor
  · intro found
    exact ⟨List.mem_of_find?_eq_some found, by simpa using List.find?_some found⟩
  · rintro ⟨member, rfl⟩
    have isSome : (items.find? fun other => key other == key item).isSome = true :=
      List.find?_isSome.mpr ⟨item, member, beq_self_eq_true _⟩
    obtain ⟨first, found⟩ := Option.isSome_iff_exists.mp isSome
    have sameKey : key first = key item := by
      simpa using List.find?_some found
    rw [found, List.inj_on_of_nodup_map distinct (List.mem_of_find?_eq_some found) member sameKey]

end FirstOfKey

/-- Where items are in order, the first one found is least among those looked for. -/
theorem le_of_find?_eq_some
    {Item : Type}
    {rank : Item → Nat}
    {items : List Item}
    (inOrder : items.Pairwise fun earlier later => rank earlier ≤ rank later)
    {wanted : Item → Bool}
    {first item : Item}
    (found : items.find? wanted = some first)
    (member : item ∈ items)
    (isWanted : wanted item = true) :
    rank first ≤ rank item := by
  obtain ⟨_, before, after, rfl, notBefore⟩ := List.find?_eq_some_iff_append.mp found
  rcases List.mem_append.mp member with isBefore | isAfter
  · have unwanted := notBefore item isBefore
    simp [isWanted] at unwanted
  · rcases List.mem_cons.mp isAfter with isFirst | later
    · exact Nat.le_of_eq (congrArg rank isFirst.symm)
    · exact (List.pairwise_cons.mp (List.pairwise_append.mp inOrder).2.1).1 item later

namespace CodePoint

/-- Different code points have different numbers. -/
theorem toNat_injective
    {left right : CodePoint}
    (same : left.toNat = right.toNat) :
    left = right := by
  rw [← ofNat_toNat left, same, ofNat_toNat]

/-- No two characters are each before the other. -/
instance : Std.Asymm (· < · : CodePoint → CodePoint → Prop) where
  asymm _ _ less greater := Nat.lt_asymm less greater

/-- Characters of which none is before the other are the same. -/
instance : Std.Trichotomous (· < · : CodePoint → CodePoint → Prop) where
  trichotomous _ _ notLess notGreater :=
    toNat_injective (Nat.le_antisymm (Nat.le_of_not_lt notGreater) (Nat.le_of_not_lt notLess))

/-- Not being before is transitive, so that texts can be compared character by character. -/
instance : Trans (¬ · < · : CodePoint → CodePoint → Prop) (¬ · < ·) (¬ · < ·) where
  trans notLess alsoNotLess less :=
    Nat.not_lt_of_le
      (Nat.le_trans (Nat.le_of_not_lt alsoNotLess) (Nat.le_of_not_lt notLess)) less

end CodePoint

namespace Text

/-- The order of texts is transitive. -/
theorem ordered_trans
    (first second third : Text)
    (before : ordered first second = true)
    (after : ordered second third = true) :
    ordered first third = true := by
  simp only [ordered, decide_eq_true_eq] at before after ⊢
  let _ : LE CodePoint := LE.ofLT CodePoint
  have _ : Std.IsLinearOrder CodePoint := Std.IsLinearOrder.of_lt
  exact List.le_trans before after

/-- Any two texts are ordered. -/
theorem ordered_total
    (left right : Text) :
    (ordered left right || ordered right left) = true := by
  simpa [ordered] using List.le_total left right

/-- Sorting texts and leaving out repetitions keeps each of them. -/
@[simp] theorem mem_sortedDistinct
    {texts : List Text}
    {text : Text} :
    text ∈ sortedDistinct texts ↔ text ∈ texts := by
  simp [sortedDistinct, List.mem_mergeSort, List.mem_eraseDups]

/-- No text is kept twice. -/
theorem nodup_sortedDistinct
    (texts : List Text) :
    (sortedDistinct texts).Nodup :=
  (List.mergeSort_perm _ _).nodup_iff.mpr (nodup_eraseDups texts)

/-- Two lists have the same sorted distinct members exactly when they have the same
members. -/
theorem sortedDistinct_eq_iff
    {left right : List Text} :
    sortedDistinct left = sortedDistinct right ↔ ∀ text, text ∈ left ↔ text ∈ right := by
  constructor
  · intro same text
    rw [← mem_sortedDistinct, same, mem_sortedDistinct]
  · intro sameMembers
    have sorted (texts : List Text) :
        (sortedDistinct texts).Pairwise fun first second => ordered first second = true :=
      List.pairwise_mergeSort ordered_trans ordered_total _
    have permuted : (sortedDistinct left).Perm (sortedDistinct right) := by
      rw [List.perm_ext_iff_of_nodup (nodup_sortedDistinct left) (nodup_sortedDistinct right)]
      simpa using sameMembers
    refine List.Perm.eq_of_pairwise ?_ (sorted left) (sorted right) permuted
    intro first second _ _ before after
    simp only [ordered, decide_eq_true_eq] at before after
    exact List.le_antisymm before after

end Text

end MissionLint
