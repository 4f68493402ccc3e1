import Mathlib.Data.List.Forall2
import ScalarSql.Proofs.Computation

/-!
# Computations that succeed alike

Two computations succeed alike if both fail, whatever their errors are, or both succeed and
their results are related, `SucceedAlike`.  A step after such computations succeeds alike if it
does so from related results, `SucceedAlike.bind`, and so does a step for each of several items
that are related one by one, `SucceedAlike.mapM`.

Some computations carry a state, such as the number of the next invocation.  Two of them run
alike if they succeed alike from whatever states they start, `RunAlike`.
-/

set_option autoImplicit false

namespace ScalarSql

/-- Both computations fail, or both succeed with related results. -/
inductive SucceedAlike {ε α β : Type} (related : α → β → Prop) :
    Except ε α → Except ε β → Prop where
  | ok (value : α) (other : β) (here : related value other) :
      SucceedAlike related (.ok value) (.ok other)
  | error (fault other : ε) : SucceedAlike related (.error fault) (.error other)

namespace SucceedAlike

variable {ε α β γ δ : Type} {related : α → β → Prop} {next : γ → δ → Prop}
  {left : Except ε α} {right : Except ε β}

@[elab_as_elim]
theorem elim {motive : Except ε α → Except ε β → Prop} (alike : SucceedAlike related left right)
    (ok : ∀ value other, related value other → motive (.ok value) (.ok other))
    (error : ∀ fault other, motive (.error fault) (.error other)) : motive left right := by
  cases alike with
  | ok value other here => exact ok value other here
  | error fault other => exact error fault other

theorem refl (outcome : Except ε α) : SucceedAlike Eq outcome outcome := by
  cases outcome with
  | ok value => exact .ok value value rfl
  | error fault => exact .error fault fault

theorem symm (alike : SucceedAlike related left right) :
    SucceedAlike (fun other value => related value other) right left :=
  alike.elim (fun value other here => .ok other value here) fun fault other => .error other fault

theorem trans {between : Except ε γ} {first : α → γ → Prop} {second : γ → β → Prop}
    (toBetween : SucceedAlike first left between) (toRight : SucceedAlike second between right)
    (compose : ∀ value middle other, first value middle → second middle other →
      related value other) : SucceedAlike related left right := by
  cases toBetween with
  | ok value middle here =>
      cases toRight with
      | ok _ other there => exact .ok value other (compose value middle other here there)
  | error fault middle =>
      cases toRight with
      | error _ other => exact .error fault other

theorem imp {weaker : α → β → Prop} (alike : SucceedAlike related left right)
    (implies : ∀ value other, related value other → weaker value other) :
    SucceedAlike weaker left right :=
  alike.elim (fun value other here => .ok value other (implies value other here)) .error

/-- The results that are related are those of the two computations. -/
theorem computed (alike : SucceedAlike related left right) :
    SucceedAlike (fun value other => related value other ∧ left = .ok value ∧ right = .ok other)
      left right := by
  cases alike with
  | ok value other here => exact .ok value other ⟨here, rfl, rfl⟩
  | error fault other => exact .error fault other

theorem of_toOption {right : Except ε α} (same : left.toOption = right.toOption) :
    SucceedAlike Eq left right := by
  rcases eq_or_errors same with rfl | ⟨fault, other, rfl, rfl⟩
  · exact .refl _
  · exact .error fault other

/-- What is found from each of two computations by the other one. -/
theorem of_transfer
    (forth : ∀ value, left = .ok value → ∃ other, right = .ok other ∧ related value other)
    (back : ∀ other, right = .ok other → ∃ value, left = .ok value) :
    SucceedAlike related left right := by
  cases left with
  | ok value =>
      obtain ⟨other, rfl, here⟩ := forth value rfl
      exact .ok value other here
  | error fault =>
      cases right with
      | error other => exact .error fault other
      | ok other =>
          obtain ⟨value, impossible⟩ := back other rfl
          cases impossible

theorem of_ok {value : α} (alike : SucceedAlike related left right)
    (succeeded : left = .ok value) : ∃ other, right = .ok other ∧ related value other := by
  subst succeeded
  cases alike with
  | ok _ other here => exact ⟨other, rfl, here⟩

/-- **A step after computations that succeed alike.** -/
theorem bind {f : α → Except ε γ} {g : β → Except ε δ} (first : SucceedAlike related left right)
    (onward : ∀ value other, related value other → SucceedAlike next (f value) (g other)) :
    SucceedAlike next (left >>= f) (right >>= g) :=
  first.elim onward fun fault other => .error fault other

theorem map {f : α → γ} {g : β → δ} (first : SucceedAlike related left right)
    (maps : ∀ value other, related value other → next (f value) (g other)) :
    SucceedAlike next (left.map f) (right.map g) :=
  first.elim (fun value other here => .ok _ _ (maps value other here)) fun fault other =>
    .error fault other

theorem mapError {f g : ε → γ} (alike : SucceedAlike related left right) :
    SucceedAlike related (left.mapError f) (right.mapError g) :=
  alike.elim (fun value other here => .ok value other here) fun fault other =>
    .error (f fault) (g other)

/-- **A computation for each of several items** that are related one by one. -/
theorem mapM {f : α → Except ε γ} {g : β → Except ε δ} {lefts : List α} {rights : List β}
    (items : List.Forall₂ related lefts rights)
    (each : ∀ value other, related value other → SucceedAlike next (f value) (g other)) :
    SucceedAlike (List.Forall₂ next) (lefts.mapM f) (rights.mapM g) := by
  induction items with
  | nil => exact .ok [] [] .nil
  | cons here _ ih =>
      rw [List.mapM_cons, List.mapM_cons]
      refine (each _ _ here).bind fun value other first => ih.bind fun values others rest => ?_
      exact .ok _ _ (.cons first rest)

end SucceedAlike

/-! ## Items in another order -/

/-- Every item of one list is related to one of the other. -/
structure Covering {α β : Type} (related : α → β → Prop) (lefts : List α) (rights : List β) :
    Prop where
  forth : ∀ left ∈ lefts, ∃ right ∈ rights, related left right
  back : ∀ right ∈ rights, ∃ left ∈ lefts, related left right

/-- What is made of the items of two lists is related wherever the items are. -/
structure Corresponds {α β γ δ : Type} (related : α → β → Prop) (next : γ → δ → Prop)
    (lefts : List α) (rights : List β) (values : List γ) (others : List δ) : Prop where
  length : values.length = lefts.length
  otherLength : others.length = rights.length
  pairs : ∀ (i j : Nat) (left : α) (right : β) (value : γ) (other : δ), lefts[i]? = some left →
    rights[j]? = some right → related left right → values[i]? = some value →
      others[j]? = some other → next value other

theorem Covering.of_forall₂ {α β : Type} {related : α → β → Prop} {lefts : List α}
    {rights : List β} (items : List.Forall₂ related lefts rights) :
    Covering related lefts rights := by
  induction items with
  | nil => exact ⟨nofun, nofun⟩
  | cons here _ ih =>
      refine ⟨List.forall_mem_cons.mpr ⟨⟨_, List.mem_cons_self, here⟩, fun left member => ?_⟩,
        List.forall_mem_cons.mpr ⟨⟨_, List.mem_cons_self, here⟩, fun right member => ?_⟩⟩
      · exact (ih.forth left member).imp fun _ => And.imp_left (List.mem_cons_of_mem _)
      · exact (ih.back right member).imp fun _ => And.imp_left (List.mem_cons_of_mem _)

theorem Covering.imp {α β : Type} {related next : α → β → Prop} {lefts : List α}
    {rights : List β} (items : Covering related lefts rights)
    (implies : ∀ left right, related left right → next left right) :
    Covering next lefts rights :=
  ⟨fun left member => (items.forth left member).imp fun _ => And.imp_right (implies _ _),
    fun right member => (items.back right member).imp fun _ => And.imp_right (implies _ _)⟩

theorem Covering.map {α β γ δ : Type} {related : α → β → Prop} {next : γ → δ → Prop} {f : α → γ}
    {g : β → δ} {lefts : List α} {rights : List β} (items : Covering related lefts rights)
    (maps : ∀ left right, related left right → next (f left) (g right)) :
    Covering next (lefts.map f) (rights.map g) := by
  refine ⟨List.forall_mem_map.mpr fun left member => ?_,
    List.forall_mem_map.mpr fun right member => ?_⟩
  · obtain ⟨right, inRights, here⟩ := items.forth left member
    exact ⟨_, List.mem_map_of_mem inRights, maps left right here⟩
  · obtain ⟨left, inLefts, here⟩ := items.back right member
    exact ⟨_, List.mem_map_of_mem inLefts, maps left right here⟩

theorem Corresponds.self {α β : Type} {related next : α → β → Prop} {lefts : List α}
    {rights : List β} (implies : ∀ left right, related left right → next left right) :
    Corresponds related next lefts rights lefts rights where
  length := rfl
  otherLength := rfl
  pairs i j left right value other atLeft atRight here atValue atOther := by
    cases atLeft.symm.trans atValue
    cases atRight.symm.trans atOther
    exact implies left right here

namespace Corresponds

variable {α β γ δ : Type} {related : α → β → Prop} {next : γ → δ → Prop} {lefts : List α}
  {rights : List β} {values : List γ} {others : List δ}
  (corresponds : Corresponds related next lefts rights values others)

include corresponds

theorem covering (items : Covering related lefts rights) : Covering next values others := by
  constructor
  · intro value member
    obtain ⟨i, atValue⟩ := List.mem_iff_getElem?.mp member
    have bound := corresponds.length ▸ (List.getElem?_eq_some_iff.mp atValue).1
    obtain ⟨right, inRights, here⟩ := items.forth _ (List.getElem_mem bound)
    obtain ⟨j, atRight⟩ := List.mem_iff_getElem?.mp inRights
    have otherBound := corresponds.otherLength.symm ▸ (List.getElem?_eq_some_iff.mp atRight).1
    exact ⟨_, List.getElem_mem otherBound, corresponds.pairs i j _ right value _
      (List.getElem?_eq_getElem bound) atRight here atValue (List.getElem?_eq_getElem otherBound)⟩
  · intro other member
    obtain ⟨j, atOther⟩ := List.mem_iff_getElem?.mp member
    have bound := corresponds.otherLength ▸ (List.getElem?_eq_some_iff.mp atOther).1
    obtain ⟨left, inLefts, here⟩ := items.back _ (List.getElem_mem bound)
    obtain ⟨i, atLeft⟩ := List.mem_iff_getElem?.mp inLefts
    have otherBound := corresponds.length.symm ▸ (List.getElem?_eq_some_iff.mp atLeft).1
    exact ⟨_, List.getElem_mem otherBound, corresponds.pairs i j left _ _ other atLeft
      (List.getElem?_eq_getElem bound) here (List.getElem?_eq_getElem otherBound) atOther⟩

theorem map {ζ η : Type} {last : ζ → η → Prop} {f : γ → ζ} {g : δ → η}
    (maps : ∀ value other, next value other → last (f value) (g other)) :
    Corresponds related last lefts rights (values.map f) (others.map g) where
  length := (List.length_map f).trans corresponds.length
  otherLength := (List.length_map g).trans corresponds.otherLength
  pairs i j left right value other atLeft atRight here atValue atOther := by
    rw [List.getElem?_map, Option.map_eq_some_iff] at atValue atOther
    obtain ⟨value, atValue, rfl⟩ := atValue
    obtain ⟨other, atOther, rfl⟩ := atOther
    exact maps _ _ (corresponds.pairs i j left right _ _ atLeft atRight here atValue atOther)

/-- One correspondence after another. -/
theorem trans {ζ η : Type} {last : ζ → η → Prop} {results : List ζ} {finals : List η}
    (onward : Corresponds next last values others results finals) :
    Corresponds related last lefts rights results finals where
  length := onward.length.trans corresponds.length
  otherLength := onward.otherLength.trans corresponds.otherLength
  pairs i j left right result final atLeft atRight here atResult atFinal := by
    have bound := onward.length ▸ (List.getElem?_eq_some_iff.mp atResult).1
    have otherBound := onward.otherLength ▸ (List.getElem?_eq_some_iff.mp atFinal).1
    have between := corresponds.pairs i j left right _ _ atLeft atRight here
      (List.getElem?_eq_getElem bound) (List.getElem?_eq_getElem otherBound)
    exact onward.pairs i j _ _ result final (List.getElem?_eq_getElem bound)
      (List.getElem?_eq_getElem otherBound) between atResult atFinal

end Corresponds

/-- A computation on several items has results if it has one for each of them. -/
theorem exists_mapM {ε α β : Type} {items : List α} {f : α → Except ε β}
    (each : ∀ item ∈ items, ∃ result, f item = .ok result) :
    ∃ results, items.mapM f = .ok results := by
  induction items with
  | nil => exact ⟨[], rfl⟩
  | cons first rest ih =>
      obtain ⟨⟨value, here⟩, later⟩ := List.forall_mem_cons.mp each
      obtain ⟨values, restComputed⟩ := ih later
      exact ⟨value :: values, by rw [List.mapM_cons, here, restComputed]; rfl⟩

theorem length_of_mapM {ε α β : Type} {items : List α} {f : α → Except ε β} {results : List β}
    (computed : items.mapM f = .ok results) : results.length = items.length := by
  induction items generalizing results with
  | nil =>
      cases computed
      rfl
  | cons first rest ih =>
      simp only [List.mapM_cons, bind_eq_ok] at computed
      obtain ⟨_, -, _, later, made⟩ := computed
      cases made
      exact congrArg Nat.succ (ih later)

/-- **A computation for each of several items**, which are the same ones in another order. -/
theorem SucceedAlike.mapM_of_covering {ε α β γ δ : Type} {related : α → β → Prop}
    {next : γ → δ → Prop} {f : α → Except ε γ} {g : β → Except ε δ} {lefts : List α}
    {rights : List β} (items : Covering related lefts rights)
    (each : ∀ value other, related value other → SucceedAlike next (f value) (g other)) :
    SucceedAlike (Corresponds related next lefts rights) (lefts.mapM f) (rights.mapM g) := by
  refine .of_transfer (fun values computed => ?_) fun others computed => exists_mapM ?_
  · have computable : ∃ others, rights.mapM g = .ok others := by
      refine exists_mapM fun right inRights => ?_
      obtain ⟨left, inLefts, here⟩ := items.back right inRights
      obtain ⟨i, atLeft⟩ := List.mem_iff_getElem?.mp inLefts
      obtain ⟨value, -, made⟩ := getElem?_of_mapM computed atLeft
      exact ((each left right here).of_ok made).imp fun _ => And.left
    obtain ⟨others, otherComputed⟩ := computable
    refine ⟨others, otherComputed, length_of_mapM computed, length_of_mapM otherComputed, ?_⟩
    intro i j left right value other atLeft atRight here atValue atOther
    obtain ⟨_, again, made⟩ := getElem?_of_mapM computed atLeft
    cases atValue.symm.trans again
    obtain ⟨_, again, otherMade⟩ := getElem?_of_mapM otherComputed atRight
    cases atOther.symm.trans again
    obtain ⟨_, again, alike⟩ := (each left right here).of_ok made
    cases otherMade.symm.trans again
    exact alike
  · intro left inLefts
    obtain ⟨right, inRights, here⟩ := items.forth left inLefts
    obtain ⟨j, atRight⟩ := List.mem_iff_getElem?.mp inRights
    obtain ⟨other, -, made⟩ := getElem?_of_mapM computed atRight
    exact ((each left right here).symm.of_ok made).imp fun _ => And.left

/-! ## Computations with a state -/

/-- Both computations fail, or both succeed with related results, whatever states they start
from. -/
def RunAlike {σ τ ε α β : Type} (related : α → β → Prop) (left : StateT σ (Except ε) α)
    (right : StateT τ (Except ε) β) : Prop :=
  ∀ start begin, SucceedAlike (fun value other => related value.1 other.1) (left start)
    (right begin)

namespace RunAlike

variable {σ τ ε α β γ δ : Type} {related : α → β → Prop} {next : γ → δ → Prop}
  {left : StateT σ (Except ε) α} {right : StateT τ (Except ε) β}

theorem pure {value : α} {other : β} (here : related value other) :
    RunAlike related (Pure.pure value : StateT σ (Except ε) α)
      (Pure.pure other : StateT τ (Except ε) β) :=
  fun start begin => .ok (value, start) (other, begin) here

theorem throw (fault other : ε) :
    RunAlike related (MonadExcept.throw fault : StateT σ (Except ε) α)
      (MonadExcept.throw other : StateT τ (Except ε) β) :=
  fun _ _ => .error fault other

theorem lift {first : Except ε α} {second : Except ε β}
    (alike : SucceedAlike related first second) :
    RunAlike related (liftM first : StateT σ (Except ε) α)
      (liftM second : StateT τ (Except ε) β) :=
  fun start begin => alike.elim (fun value other here => .ok (value, start) (other, begin) here)
    fun fault other => .error fault other

/-- **A step after computations that run alike.** -/
theorem bind {f : α → StateT σ (Except ε) γ} {g : β → StateT τ (Except ε) δ}
    (first : RunAlike related left right)
    (onward : ∀ value other, related value other → RunAlike next (f value) (g other)) :
    RunAlike next (left >>= f) (right >>= g) :=
  fun start begin => (first start begin).bind fun value other here =>
    onward value.1 other.1 here value.2 other.2

theorem imp {weaker : α → β → Prop} (alike : RunAlike related left right)
    (implies : ∀ value other, related value other → weaker value other) :
    RunAlike weaker left right :=
  fun start begin => (alike start begin).imp fun value other => implies value.1 other.1

theorem symm (alike : RunAlike related left right) :
    RunAlike (fun other value => related value other) right left :=
  fun start begin => (alike begin start).symm

theorem map {f : α → γ} {g : β → δ} (first : RunAlike related left right)
    (maps : ∀ value other, related value other → next (f value) (g other)) :
    RunAlike next (f <$> left) (g <$> right) := by
  rw [map_eq_pure_bind, map_eq_pure_bind]
  exact first.bind fun value other here => .pure (maps value other here)

/-- What is made of the results has no bearing on whether there are any. -/
theorem of_map {f : α → γ} {g : β → δ} (alike : RunAlike next (f <$> left) (g <$> right)) :
    RunAlike (fun _ _ => True) left right := by
  intro start begin
  have outcomes := alike start begin
  simp only [Functor.map, StateT.map] at outcomes
  cases first : left start with
  | error fault =>
      cases second : right begin with
      | error other => exact .error fault other
      | ok other =>
          rw [first, second] at outcomes
          cases outcomes
  | ok value =>
      cases second : right begin with
      | error other =>
          rw [first, second] at outcomes
          cases outcomes
      | ok other => exact .ok value other trivial

/-- The results that are related are those of the two computations. -/
theorem computed (alike : RunAlike related left right) :
    RunAlike (fun value other => related value other ∧
      (∃ start after, left start = .ok (value, after)) ∧
      ∃ begin final, right begin = .ok (other, final)) left right :=
  fun start begin => (alike start begin).computed.imp fun value other found =>
    ⟨found.1, ⟨start, value.2, found.2.1⟩, ⟨begin, other.2, found.2.2⟩⟩

/-- The results of a computation on several items stand where the items stand. -/
theorem getElem?_of_mapM {items : List α} {f : α → StateT σ (Except ε) γ} {start : σ}
    {results : List γ × σ} (computed : items.mapM f start = .ok results) {position : Nat} {item : α}
    (atPosition : items[position]? = some item) :
    ∃ between result, f item between = .ok result ∧ results.1[position]? = some result.1 := by
  induction items generalizing start results position with
  | nil => cases atPosition
  | cons first rest ih =>
      simp only [List.mapM_cons, state_bind_eq_ok, state_pure_eq_ok] at computed
      obtain ⟨_, _, here, _, _, later, rfl⟩ := computed
      cases position with
      | zero =>
          cases atPosition
          exact ⟨start, _, here, rfl⟩
      | succ position => exact ih later atPosition

theorem length_of_mapM {items : List α} {f : α → StateT σ (Except ε) γ} {start : σ}
    {results : List γ × σ} (computed : items.mapM f start = .ok results) :
    results.1.length = items.length := by
  induction items generalizing start results with
  | nil =>
      simp only [List.mapM_nil, state_pure_eq_ok] at computed
      rw [← computed]
      rfl
  | cons first rest ih =>
      simp only [List.mapM_cons, state_bind_eq_ok, state_pure_eq_ok] at computed
      obtain ⟨_, _, _, _, _, later, rfl⟩ := computed
      exact congrArg Nat.succ (ih later)

/-- A computation on several items has results if it has one for each of them, whatever the
state is by then. -/
theorem exists_mapM {items : List α} {f : α → StateT σ (Except ε) γ}
    (each : ∀ item ∈ items, ∀ between, ∃ result, f item between = .ok result) (start : σ) :
    ∃ results, items.mapM f start = .ok results := by
  induction items generalizing start with
  | nil => exact ⟨_, rfl⟩
  | cons first rest ih =>
      obtain ⟨here, later⟩ := List.forall_mem_cons.mp each
      obtain ⟨⟨value, between⟩, made⟩ := here start
      obtain ⟨⟨values, after⟩, restComputed⟩ := ih later between
      refine ⟨(value :: values, after), ?_⟩
      simp only [List.mapM_cons, state_bind_eq_ok, state_pure_eq_ok]
      exact ⟨value, between, made, values, after, restComputed, rfl⟩

/-- **A computation for each of several items**, which are the same ones in another order. -/
theorem mapM_of_covering {f : α → StateT σ (Except ε) γ} {g : β → StateT τ (Except ε) δ}
    {lefts : List α} {rights : List β} (items : Covering related lefts rights)
    (each : ∀ value other, related value other → RunAlike next (f value) (g other)) :
    RunAlike (Corresponds related next lefts rights) (lefts.mapM f) (rights.mapM g) := by
  intro start begin
  refine .of_transfer (fun values computed => ?_) fun others computed => exists_mapM ?_ start
  · have computable : ∃ others, rights.mapM g begin = .ok others := by
      refine exists_mapM (fun right inRights between => ?_) begin
      obtain ⟨left, inLefts, here⟩ := items.back right inRights
      obtain ⟨i, atLeft⟩ := List.mem_iff_getElem?.mp inLefts
      obtain ⟨_, value, made, -⟩ := getElem?_of_mapM computed atLeft
      exact ((each left right here _ between).of_ok made).imp fun _ => And.left
    obtain ⟨others, otherComputed⟩ := computable
    refine ⟨others, otherComputed, length_of_mapM computed, length_of_mapM otherComputed, ?_⟩
    intro i j left right value other atLeft atRight here atValue atOther
    obtain ⟨_, _, made, again⟩ := getElem?_of_mapM computed atLeft
    cases atValue.symm.trans again
    obtain ⟨_, _, otherMade, again⟩ := getElem?_of_mapM otherComputed atRight
    cases atOther.symm.trans again
    obtain ⟨_, again, alike⟩ := (each left right here _ _).of_ok made
    cases otherMade.symm.trans again
    exact alike
  · intro left inLefts between
    obtain ⟨right, inRights, here⟩ := items.forth left inLefts
    obtain ⟨j, atRight⟩ := List.mem_iff_getElem?.mp inRights
    obtain ⟨_, other, made, -⟩ := getElem?_of_mapM computed atRight
    exact ((each left right here between _).symm.of_ok made).imp fun _ => And.left

end RunAlike

end ScalarSql
