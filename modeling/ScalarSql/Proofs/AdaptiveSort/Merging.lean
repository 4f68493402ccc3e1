import Mathlib.Data.List.Perm.Subperm
import ScalarSql.AdaptiveSort
import ScalarSql.Proofs.StableSort

/-!
# Merging

What a sort makes of a list is compared with the list it starts from, whose elements come in a
known order.  The elements stay the same whatever they are sorted by; they end up sorted, and
those that tie keep their order, if the order is consistent, `Arranges`.  A step of a sort may
have no result, but not for a consistent order, `Settles`.

**Two sorted lists** merge into one.  From the back the same is done in the opposite order, with
the lists reversed, so that one lemma covers both, `pairwise_merge`.

**From both ends.**  The front takes what the whole merge puts first, and the back what it puts
last.  So in a consistent order no element is taken twice, and what is left is the middle of the
merge, `settles_mergeFromBothEnds`.  In any other order the two ends may take the same element.
But whenever they do not take more elements of a list than it has, they take different ones:
both lists are taken from the front by one end and from the back by the other.
-/

set_option autoImplicit false

namespace ScalarSql

variable {α β : Type}

/-! ## Orders -/

/-- An order by which elements can be sorted: no two elements are below each other, and an
element that is at least a second one, which is at least a third one, is at least the third. -/
structure IsConsistent (below : α → α → Bool) : Prop where
  asymm : ∀ first second, below first second = true → below second first = false
  trans : ∀ first second third, below first second = false → below second third = false →
    below first third = false

/-- A list that consists of the elements of another one, sorted if the order is consistent. -/
structure Arranges (below : α → α → Bool) (earlier : α → α → Prop) (source arranged : List α) :
    Prop where
  perm : arranged.Perm source
  sorted : IsConsistent below → arranged.Pairwise (Precedes below earlier)

/-- A computation with a good result, or with none if the order is not consistent. -/
def Settles (below : α → α → Bool) (good : β → Prop) : Option β → Prop
  | some result => good result
  | none => ¬ IsConsistent below

variable {below : α → α → Bool} {earlier : α → α → Prop}

namespace IsConsistent

theorem irrefl (consistent : IsConsistent below) (element : α) : below element element = false := by
  by_contra isBelow
  exact isBelow (consistent.asymm element element (Bool.eq_true_of_not_eq_false isBelow))

/-- The order from the greatest element down. -/
theorem flip (consistent : IsConsistent below) :
    IsConsistent fun first second => below second first where
  asymm first second := consistent.asymm second first
  trans first second third notBelow next := consistent.trans third second first next notBelow

/-- An element below a second one that is not above a third one is below the third. -/
theorem below_of_below (consistent : IsConsistent below) {first second third : α}
    (isBelow : below first second = true) (next : below third second = false) :
    below first third = true := by
  by_contra notBelow
  rw [consistent.trans first third second (Bool.eq_false_iff.mpr notBelow) next] at isBelow
  cases isBelow

/-- An element that is not above a second one is below everything above that one. -/
theorem below_of_not_below (consistent : IsConsistent below) {first second third : α}
    (notAbove : below second first = false) (next : below second third = true) :
    below first third = true := by
  by_contra notBelow
  rw [consistent.trans second first third notAbove (Bool.eq_false_iff.mpr notBelow)] at next
  cases next

end IsConsistent

theorem Settles.bind {γ : Type} {good : β → Prop} {better : γ → Prop} {outcome : Option β}
    {next : β → Option γ} (settles : Settles below good outcome)
    (goesOn : ∀ result, good result → Settles below better (next result)) :
    Settles below better (outcome >>= next) := by
  cases outcome with
  | none => exact settles
  | some result => exact goesOn result settles

theorem Settles.map {γ : Type} {good : β → Prop} {better : γ → Prop} {outcome : Option β}
    {f : β → γ} (settles : Settles below good outcome)
    (keeps : ∀ result, good result → better (f result)) :
    Settles below better (outcome.map f) := by
  cases outcome with
  | none => exact settles
  | some result => exact keeps result settles

namespace Precedes

theorem not_below (consistent : IsConsistent below) {first second : α}
    (precedes : Precedes below earlier first second) : below second first = false :=
  precedes.elim (consistent.asymm first second) And.left

/-- What precedes an element precedes what that element precedes, if it came before that. -/
theorem trans (consistent : IsConsistent below) {first second third : α}
    (here : Precedes below earlier first second) (next : Precedes below earlier second third)
    (before : below first third = false → earlier first third) :
    Precedes below earlier first third := by
  cases isBelow : below first third with
  | true => exact .inl isBelow
  | false =>
      exact .inr ⟨consistent.trans third second first (next.not_below consistent)
        (here.not_below consistent), before isBelow⟩

end Precedes

/-! ## Merging -/

theorem pairwise_merge (earlier : α → α → Prop) (consistent : IsConsistent below)
    {lefts rights : List α}
    (leftsSorted : lefts.Pairwise (Precedes below earlier))
    (rightsSorted : rights.Pairwise (Precedes below earlier))
    (leftsEarlier : ∀ left ∈ lefts, ∀ right ∈ rights, earlier left right) :
    (List.merge lefts rights fun left right => !below right left).Pairwise
      (Precedes below earlier) := by
  induction lefts generalizing rights with
  | nil => simpa using rightsSorted
  | cons left lefts leftsIH =>
      induction rights with
      | nil => simpa using leftsSorted
      | cons right rights rightsIH =>
          obtain ⟨leftFirst, leftsRest⟩ := List.pairwise_cons.mp leftsSorted
          obtain ⟨rightFirst, rightsRest⟩ := List.pairwise_cons.mp rightsSorted
          obtain ⟨leftEarlier, restEarlier⟩ := List.forall_mem_cons.mp leftsEarlier
          rw [List.cons_merge_cons]
          cases isBelow : below right left with
          | false =>
              have here : Precedes below earlier left right :=
                .inr ⟨isBelow, leftEarlier right List.mem_cons_self⟩
              refine List.pairwise_cons.mpr ⟨fun other member => ?_,
                leftsIH leftsRest rightsSorted restEarlier⟩
              rcases List.mem_merge.mp member with inLefts | inRights
              · exact leftFirst other inLefts
              · rcases List.mem_cons.mp inRights with rfl | inRest
                · exact here
                · exact here.trans consistent (rightFirst other inRest) fun _ =>
                    leftEarlier other inRights
          | true =>
              refine List.pairwise_cons.mpr ⟨fun other member => ?_, rightsIH rightsRest
                fun other member next inRest =>
                  leftsEarlier other member next (List.mem_cons_of_mem _ inRest)⟩
              rcases List.mem_merge.mp member with inLefts | inRights
              · rcases List.mem_cons.mp inLefts with rfl | inRest
                · exact .inl isBelow
                · exact .inl (consistent.below_of_below isBelow
                    ((leftFirst other inRest).not_below consistent))
              · exact rightFirst other inRights

/-- Merging from the back sorts like merging from the front. -/
theorem pairwise_merge_reverse (consistent : IsConsistent below) {lefts rights : List α}
    (leftsSorted : lefts.Pairwise (Precedes below earlier))
    (rightsSorted : rights.Pairwise (Precedes below earlier))
    (leftsEarlier : ∀ left ∈ lefts, ∀ right ∈ rights, earlier left right) :
    (List.merge rights.reverse lefts.reverse
      fun right left => !below right left).reverse.Pairwise (Precedes below earlier) :=
  List.pairwise_reverse.mpr (pairwise_merge (fun first second => earlier second first)
    consistent.flip (List.pairwise_reverse.mpr rightsSorted)
    (List.pairwise_reverse.mpr leftsSorted) fun right inRights left inLefts =>
      leftsEarlier left (List.mem_reverse.mp inLefts) right (List.mem_reverse.mp inRights))

theorem mergeSorted_perm (lefts rights : List α) :
    (mergeSorted below lefts rights).Perm (lefts ++ rights) := by
  unfold mergeSorted
  split
  · exact List.merge_perm_append _
  · refine (List.reverse_perm _).trans ((List.merge_perm_append _).trans ?_)
    rw [← List.reverse_append]
    exact List.reverse_perm _

/-- What has come earlier in the list that two arranged ones are made of. -/
theorem earlier_of_arranges {lefts rights arrangedLefts arrangedRights : List α}
    (left : Arranges below earlier lefts arrangedLefts)
    (right : Arranges below earlier rights arrangedRights)
    (inOrder : (lefts ++ rights).Pairwise earlier) :
    ∀ first ∈ arrangedLefts, ∀ second ∈ arrangedRights, earlier first second :=
  fun first inLefts second inRights => (List.pairwise_append.mp inOrder).2.2 first
    (left.perm.mem_iff.mp inLefts) second (right.perm.mem_iff.mp inRights)

theorem arranges_mergeSorted {lefts rights arrangedLefts arrangedRights : List α}
    (left : Arranges below earlier lefts arrangedLefts)
    (right : Arranges below earlier rights arrangedRights)
    (inOrder : (lefts ++ rights).Pairwise earlier) :
    Arranges below earlier (lefts ++ rights) (mergeSorted below arrangedLefts arrangedRights) where
  perm := (mergeSorted_perm _ _).trans (left.perm.append right.perm)
  sorted consistent := by
    have before := earlier_of_arranges left right inOrder
    unfold mergeSorted
    split
    · exact pairwise_merge earlier consistent (left.sorted consistent) (right.sorted consistent)
        before
    · exact pairwise_merge_reverse consistent (left.sorted consistent) (right.sorted consistent)
        before

/-! ## The first steps of a merge -/

/-- How far a merge of two lists has come: what it has taken of each, and that it goes on with
what is left. -/
structure Merging.Begins (leftFirst : α → α → Bool) (lefts rights : List α)
    (merging : Merging α) (fromLeft fromRight : List α) : Prop where
  lefts_eq : lefts = fromLeft ++ merging.left
  rights_eq : rights = fromRight ++ merging.right
  perm : merging.taken.Perm (fromLeft ++ fromRight)
  goesOn : merging.taken ++ List.merge merging.left merging.right leftFirst
    = List.merge lefts rights leftFirst

variable (leftFirst : α → α → Bool)

theorem exists_begins_mergeSteps (steps : Nat) (lefts rights : List α) :
    ∃ fromLeft fromRight, (mergeSteps leftFirst steps lefts rights).Begins leftFirst lefts rights
      fromLeft fromRight := by
  induction steps generalizing lefts rights with
  | zero => exact ⟨[], [], rfl, rfl, .nil, rfl⟩
  | succ steps ih =>
      match lefts, rights with
      | [], rights => exact ⟨[], [], rfl, rfl, .nil, rfl⟩
      | left :: lefts, [] => exact ⟨[], [], rfl, rfl, .nil, rfl⟩
      | left :: lefts, right :: rights =>
          rw [mergeSteps]
          split
          · next first =>
              obtain ⟨fromLeft, fromRight, begins⟩ := ih lefts (right :: rights)
              refine ⟨left :: fromLeft, fromRight, congrArg (left :: ·) begins.lefts_eq,
                begins.rights_eq, begins.perm.cons left, ?_⟩
              rw [List.cons_merge_cons, if_pos first, ← begins.goesOn]
              rfl
          · next second =>
              obtain ⟨fromLeft, fromRight, begins⟩ := ih (left :: lefts) rights
              refine ⟨fromLeft, right :: fromRight, begins.lefts_eq,
                congrArg (right :: ·) begins.rights_eq,
                (begins.perm.cons right).trans List.perm_middle.symm, ?_⟩
              rw [List.cons_merge_cons, if_neg second, ← begins.goesOn]
              rfl

theorem length_taken_mergeSteps {steps : Nat} {lefts rights : List α}
    (inLefts : steps ≤ lefts.length) (inRights : steps ≤ rights.length) :
    (mergeSteps leftFirst steps lefts rights).taken.length = steps := by
  induction steps generalizing lefts rights with
  | zero => rfl
  | succ steps ih =>
      match lefts, rights with
      | left :: lefts, right :: rights =>
          simp only [List.length_cons] at inLefts inRights
          rw [mergeSteps]
          split
          · exact congrArg Nat.succ (ih (by omega) (by simp; omega))
          · exact congrArg Nat.succ (ih (by simp; omega) (by omega))

/-! ## Merging from both ends -/

/-- A list with its first elements, its last ones and what is between them, found from how many
are left without the first ones and without the last ones. -/
theorem eq_first_between_last {elements first rest last others : List α}
    (front : first ++ rest = elements) (back : last ++ others = elements.reverse)
    (room : elements.length ≤ rest.length + others.length) :
    first ++ rest.take (rest.length + others.length - elements.length) ++ last.reverse
      = elements := by
  have frontLength := congrArg List.length front
  have backLength := congrArg List.length back
  rw [List.length_append] at frontLength
  rw [List.length_append, List.length_reverse] at backLength
  have rest_eq : rest = others.reverse.drop first.length ++ last.reverse := by
    rw [← List.drop_append_of_le_length (by simp; omega), ← List.reverse_append, back,
      List.reverse_reverse, ← front, List.drop_left]
  have between : rest.take (rest.length + others.length - elements.length)
      = others.reverse.drop first.length := by
    rw [rest_eq]
    exact List.take_left' (by simp; omega)
  rw [between, List.append_assoc, ← rest_eq, front]

/-- First and last elements that differ from one another are not more than there are. -/
theorem length_le_of_nodup {elements first rest last others : List α}
    (front : first ++ rest = elements) (back : last ++ others = elements.reverse)
    (nodup : (first ++ last).Nodup) : elements.length ≤ rest.length + others.length := by
  have inside : first ++ last ⊆ elements := fun element member => by
    rcases List.mem_append.mp member with inFirst | inLast
    · exact front ▸ List.mem_append_left rest inFirst
    · exact List.mem_reverse.mp (back ▸ List.mem_append_left others inLast)
  have few := (nodup.subperm inside).length_le
  have frontLength := congrArg List.length front
  have backLength := congrArg List.length back
  simp only [List.length_append, List.length_reverse] at few frontLength backLength
  omega

theorem eq_of_perm_of_length_le_one {first second : List α} (perm : first.Perm second)
    (few : second.length ≤ 1) : first = second := by
  match second with
  | [] => exact perm.eq_nil
  | [_] => exact List.perm_singleton.mp perm

section BothEnds

variable {lefts rights frontLefts frontRights backLefts backRights : List α}
  {leftFirst rightFirst : α → α → Bool} {front back : Merging α}
  (fromFront : front.Begins leftFirst lefts rights frontLefts frontRights)
  (fromBack : back.Begins rightFirst rights.reverse lefts.reverse backRights backLefts)

include fromFront fromBack

/-- If the two ends do not take more elements of either list than it has, then they take
different ones, and the others are between them. -/
theorem ends_perm
    (leftRoom : lefts.length ≤ front.left.length + back.right.length)
    (rightRoom : rights.length ≤ front.right.length + back.left.length) :
    (front.taken ++ (front.left.take (front.left.length + back.right.length - lefts.length)
      ++ front.right.take (front.right.length + back.left.length - rights.length))
      ++ back.taken.reverse).Perm (lefts ++ rights) := by
  classical
  have leftParts := eq_first_between_last fromFront.lefts_eq.symm fromBack.rights_eq.symm leftRoom
  have rightParts := eq_first_between_last fromFront.rights_eq.symm fromBack.lefts_eq.symm
    rightRoom
  refine List.perm_iff_count.mpr fun element => ?_
  have leftCount := congrArg (List.count element) leftParts
  have rightCount := congrArg (List.count element) rightParts
  have frontCount := fromFront.perm.count_eq element
  have backCount := fromBack.perm.count_eq element
  simp only [List.count_append, List.count_reverse] at *
  omega

/-- Two ends that take different elements of the whole do not take more of either list than it
has. -/
theorem ends_room {between : List α}
    (nodup : (front.taken ++ between ++ back.taken.reverse).Nodup) :
    lefts.length ≤ front.left.length + back.right.length ∧
      rights.length ≤ front.right.length + back.left.length := by
  classical
  have parts : (front.taken ++ between ++ back.taken.reverse).Perm
      (frontLefts ++ backLefts ++ between ++ (frontRights ++ backRights)) := by
    refine List.perm_iff_count.mpr fun element => ?_
    have frontCount := fromFront.perm.count_eq element
    have backCount := fromBack.perm.count_eq element
    simp only [List.count_append, List.count_reverse] at *
    omega
  obtain ⟨leftNodup, rightNodup, -⟩ := List.nodup_append.mp (parts.nodup_iff.mp nodup)
  exact ⟨length_le_of_nodup fromFront.lefts_eq.symm fromBack.rights_eq.symm
      (List.nodup_append.mp leftNodup).1,
    length_le_of_nodup fromFront.rights_eq.symm fromBack.lefts_eq.symm rightNodup⟩

end BothEnds

section Consistent

variable {lefts rights source nextSource : List α}
  (oneWay : ∀ first second, earlier first second → ¬ earlier second first)

include oneWay

theorem Precedes.asymm (consistent : IsConsistent below) {first second : α}
    (precedes : Precedes below earlier first second) : ¬ Precedes below earlier second first := by
  intro back
  rcases precedes with isBelow | ⟨notBelow, before⟩
  · exact Bool.false_ne_true ((Precedes.not_below consistent back).symm.trans isBelow)
  · rcases back with isBelow | ⟨-, after⟩
    · exact Bool.false_ne_true (notBelow.symm.trans isBelow)
    · exact oneWay first second before after

/-- **There is one way to sort.** -/
theorem eq_of_sorted (consistent : IsConsistent below) {first second : List α}
    (firstSorted : first.Pairwise (Precedes below earlier))
    (secondSorted : second.Pairwise (Precedes below earlier)) (perm : first.Perm second) :
    first = second :=
  List.Perm.eq_of_pairwise
    (fun _ _ _ _ here back => absurd back (Precedes.asymm oneWay consistent here))
    firstSorted secondSorted perm

theorem nodup_of_sorted (consistent : IsConsistent below) {sorted : List α}
    (isSorted : sorted.Pairwise (Precedes below earlier)) : sorted.Nodup := by
  refine isSorted.imp fun {first second} precedes same => ?_
  subst same
  exact Precedes.asymm oneWay consistent precedes precedes

/-- In a consistent order the two ends of a merge belong to one sorted list, which has at most
one element between them. -/
theorem exists_sorted_ends (consistent : IsConsistent below) {front back : Merging α}
    {frontLefts frontRights backLefts backRights : List α}
    (fromFront : front.Begins (fun left right => !below right left) lefts rights
      frontLefts frontRights)
    (fromBack : back.Begins (fun right left => !below right left) rights.reverse lefts.reverse
      backRights backLefts)
    (frontLength : front.taken.length = lefts.length)
    (backLength : back.taken.length = lefts.length)
    (leftsSorted : lefts.Pairwise (Precedes below earlier))
    (rightsSorted : rights.Pairwise (Precedes below earlier))
    (leftsEarlier : ∀ left ∈ lefts, ∀ right ∈ rights, earlier left right)
    (notLonger : lefts.length ≤ rights.length) (almost : rights.length ≤ lefts.length + 1) :
    ∃ between : List α, between.length ≤ 1 ∧
      (front.taken ++ between ++ back.taken.reverse).Perm (lefts ++ rights) ∧
      (front.taken ++ between ++ back.taken.reverse).Pairwise (Precedes below earlier) := by
  have sorted := pairwise_merge earlier consistent leftsSorted rightsSorted leftsEarlier
  have perm : (List.merge lefts rights fun left right => !below right left).Perm
      (lefts ++ rights) := List.merge_perm_append _
  have backPerm : (List.merge rights.reverse lefts.reverse
      fun right left => !below right left).Perm (rights.reverse ++ lefts.reverse) :=
    List.merge_perm_append _
  rw [← List.reverse_append] at backPerm
  have one := eq_of_sorted oneWay consistent
    (pairwise_merge_reverse consistent leftsSorted rightsSorted leftsEarlier) sorted
    ((List.reverse_perm _).trans (backPerm.trans ((List.reverse_perm _).trans perm.symm)))
  rw [← fromBack.goesOn, List.reverse_eq_iff] at one
  have length := perm.length_eq
  have frontTotal := congrArg List.length fromFront.goesOn
  have backTotal := congrArg List.length one
  simp only [List.length_append, List.length_reverse] at length frontTotal backTotal
  have whole := eq_first_between_last fromFront.goesOn one (by omega)
  rw [← whole] at sorted perm
  exact ⟨_, by simp only [List.length_take]; omega, perm, sorted⟩

/-- **Merging from both ends** sorts, and has a result if the order is consistent. -/
theorem settles_mergeFromBothEnds (left : Arranges below earlier source lefts)
    (right : Arranges below earlier nextSource rights)
    (inOrder : (source ++ nextSource).Pairwise earlier)
    (notLonger : lefts.length ≤ rights.length) (almost : rights.length ≤ lefts.length + 1) :
    Settles below (Arranges below earlier (source ++ nextSource))
      (mergeFromBothEnds below lefts rights) := by
  obtain ⟨frontLefts, frontRights, fromFront⟩ := exists_begins_mergeSteps
    (fun left right => !below right left) lefts.length lefts rights
  obtain ⟨backRights, backLefts, fromBack⟩ := exists_begins_mergeSteps
    (fun right left => !below right left) lefts.length rights.reverse lefts.reverse
  have ends := fun consistent : IsConsistent below => exists_sorted_ends oneWay consistent
    fromFront fromBack (length_taken_mergeSteps _ le_rfl notLonger)
    (length_taken_mergeSteps _ (by simpa using notLonger) (by simp))
    (left.sorted consistent) (right.sorted consistent) (earlier_of_arranges left right inOrder)
    notLonger almost
  unfold mergeFromBothEnds
  dsimp only
  split
  · next room =>
      have perm := ends_perm fromFront fromBack room.1 room.2
      refine ⟨perm.trans (left.perm.append right.perm), fun consistent => ?_⟩
      obtain ⟨between, few, wholePerm, sorted⟩ := ends consistent
      have same := (List.perm_append_left_iff _).mp
        ((List.perm_append_right_iff _).mp (perm.trans wholePerm.symm))
      rw [eq_of_perm_of_length_le_one same few]
      exact sorted
  · next noRoom =>
      intro consistent
      obtain ⟨between, -, -, sorted⟩ := ends consistent
      exact noRoom (ends_room fromFront fromBack (nodup_of_sorted oneWay consistent sorted))

end Consistent

end ScalarSql
