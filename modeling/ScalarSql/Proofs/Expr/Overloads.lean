import Mathlib.Data.Prod.Lex
import Mathlib.Data.List.Forall2
import ScalarSql.Proofs.Expr.Resolution
import ScalarSql.Proofs.StableSort

/-!
# The choice among overloaded functions

A name stands for the functions that are registered under it or, if there are none, for the
built-in ones, `FunctionScope.Offers`.  Of these candidates a call goes to the first one in
an order of preference that it can be made with, `Expr.resolve_call_prefers`; the same
theorem says which error there is otherwise.

**Preference.**  Candidates are compared by `Signature.preference`: a fixed arity before a
variadic one, then by the number of narrowed arguments, then by the number of widened ones,
and at last by the position at which they are registered.  The program sorts by the first
three with a stable sort.  The proof sorts candidates together with their positions,
`Expr.ranked`, so that stability becomes part of the order.

**Trying.**  The cost of a candidate does not tell whether its arguments can be converted: a
literal may have a fraction that the policy does not let go.  So candidates are tried in
order, and the first one that takes the arguments is least among all that do,
`Expr.preferred_of_ranked`.  If there is none, the error of the very first one is reported,
which is about its first argument that cannot stand where it is, `Expr.FirstRefused`.
-/

set_option autoImplicit false

namespace ScalarSql

namespace Signature

/-- The conversion of an argument of the given type to the parameter at a position, if there
is one. -/
def conversion? (signature : Signature) (position : Nat) (type : DataType) : Option Coercion :=
  (signature.parameterType? position).bind type.coercion?

/-- How many of the arguments, the first of which is at the given position, are narrowed. -/
def narrowings (signature : Signature) (start : Nat) (types : List DataType) : Nat :=
  (types.zipIdx start).countP fun (type, position) =>
    signature.conversion? position type == some .narrowing

/-- How many of the arguments, the first of which is at the given position, are widened; a
bare `NULL` and an argument without a conversion count as well. -/
def widenings (signature : Signature) (start : Nat) (types : List DataType) : Nat :=
  (types.zipIdx start).countP fun (type, position) =>
    signature.conversion? position type == some .widening
      || signature.conversion? position type == none

/-- The place of a candidate in the order of preference for arguments of the given types: a
fixed arity before a variadic one, then by the number of narrowed arguments, then by the
number of widened ones, and then by the position at which the candidate is registered. -/
def preference (signature : Signature) (types : List DataType) (registered : Nat) :
    Bool ×ₗ Nat ×ₗ Nat ×ₗ Nat :=
  toLex (signature.arity.isVariadic, toLex (signature.narrowings 0 types,
    toLex (signature.widenings 0 types, registered)))

end Signature

namespace CallCost

theorem addAll_eq (signature : Signature) (cost : CallCost) (start : Nat)
    (types : List DataType) :
    addAll signature cost start types =
      { variadic := cost.variadic
        narrowings := cost.narrowings + signature.narrowings start types
        widenings := cost.widenings + signature.widenings start types } := by
  induction types generalizing cost start with
  | nil => rfl
  | cons type rest ih =>
      rw [addAll, ih]
      simp only [Signature.narrowings, Signature.widenings, Signature.conversion?,
        List.zipIdx_cons, List.countP_cons]
      cases (signature.parameterType? start).bind type.coercion? with
      | none => simp [add]; omega
      | some kind => cases kind <;> simp [add] <;> omega

/-- Of two candidates the one with the lower cost is preferred, and of two with one cost
the one that is registered first. -/
theorem preference_lt {types : List DataType} {left right : Callable} {i j : Nat}
    (precedes : (ofCall left types).below (ofCall right types) = true ∨
      (ofCall right types).below (ofCall left types) = false ∧ i < j) :
    left.signature.preference types i < right.signature.preference types j := by
  simp only [ofCall, addAll_eq, below, Signature.preference] at precedes ⊢
  simp only [Prod.Lex.toLex_lt_toLex]
  generalize left.signature.arity.isVariadic = a at *
  generalize right.signature.arity.isVariadic = b at *
  cases a <;> cases b <;> simp at precedes ⊢ <;> omega

/-- Not being below is transitive, because costs are compared by keys. -/
theorem not_below_trans {first second third : CallCost} (left : first.below second = false)
    (right : second.below third = false) : first.below third = false := by
  obtain ⟨a, _, _⟩ := first
  obtain ⟨b, _, _⟩ := second
  obtain ⟨c, _, _⟩ := third
  cases a <;> cases b <;> cases c <;> simp [below] at left right ⊢ <;> omega

end CallCost

namespace FunctionScope

/-- A name stands for the functions that are registered under it or, if there is no such
entry, for the built-in ones. -/
def Offers (scope : FunctionScope) (name : String) (candidates : List Callable) : Prop :=
  scope.registered.lookup name = some candidates ∨
    scope.registered.lookup name = none ∧ scope.builtin.lookup name = some candidates

theorem offers_iff {scope : FunctionScope} {name : String} {candidates : List Callable} :
    scope.Offers name candidates ↔ scope.lookup name = some candidates := by
  simp [Offers, lookup]

end FunctionScope

namespace Expr

/-! ## Arguments -/

/-- An argument of the given type can stand at a position: it is a bare `NULL`, or its type
has a conversion to that of the parameter.  If the conversion narrows and the argument is
written as a decimal, the narrowing policy must let its number become one of that type. -/
def Convertible (policy : Narrowing) (signature : Signature) (position : Nat) (argument : Expr)
    (type : DataType) : Prop :=
  type = .unresolved ∨
    ∃ parameter kind, signature.parameterType? position = some parameter ∧
      type.coercion? parameter = some kind ∧
      (kind = .narrowing → ∀ number, argument = .literal (.decimal number) →
        (number.narrow? parameter policy).isSome = true)

/-- The error for an argument that cannot stand at a position. -/
def refusal (signature : Signature) (position : Nat) (type : DataType) : AnalysisError :=
  .typeMismatch signature.name (position + 1)
    ((signature.parameterType? position).getD .unresolved) type

theorem decimalLiteral?_eq_some {argument : Expr} {number : Decimal} :
    argument.decimalLiteral? = some number ↔ argument = .literal (.decimal number) := by
  unfold decimalLiteral?
  split <;> simp_all

theorem coercion?_unresolved (type : DataType) : type.coercion? .unresolved = none := by
  simp [DataType.coercion?, DataType.hasUnresolved]

variable (policy : Narrowing) (signature : Signature)

/-- **An argument that can stand at a position is converted, any other one is refused.** -/
theorem coerceArgument_cases (position : Nat) (argument : Expr) (type : DataType) :
    (Convertible policy signature position argument type ∧
      ∃ converted, coerceArgument policy signature position argument type = .ok converted) ∨
    (¬ Convertible policy signature position argument type ∧
      coerceArgument policy signature position argument type
        = .error (refusal signature position type)) := by
  unfold coerceArgument Convertible refusal
  by_cases untyped : type = .unresolved
  · exact .inl ⟨.inl untyped, _, by rw [untyped]; rfl⟩
  · have typed : (type == DataType.unresolved) = false := by simpa using untyped
    simp only [typed, Bool.false_eq_true, ↓reduceIte, untyped, false_or]
    cases signature.parameterType? position with
    | none => simp [coerce, coercion?_unresolved]
    | some parameter =>
        simp only [Option.getD_some, coerce, Option.some.injEq]
        cases found : type.coercion? parameter with
        | none => simp [found]
        | some kind =>
            cases kind with
            | identity | widening => simp [found]
            | narrowing =>
                cases literal : argument.decimalLiteral? with
                | none =>
                    have other : ∀ number, argument ≠ .literal (.decimal number) := by
                      intro number isLiteral
                      rw [decimalLiteral?_eq_some.mpr isLiteral] at literal
                      cases literal
                    simp [found, other]
                | some number =>
                    obtain rfl := decimalLiteral?_eq_some.mp literal
                    cases narrowed : number.narrow? parameter policy <;> simp [found, narrowed]

variable {policy signature}

/-- All arguments, the first of which is at the given position, can stand where they are. -/
def AllConvertible (policy : Narrowing) (signature : Signature) (start : Nat)
    (arguments : List Expr) (types : List DataType) : Prop :=
  ∀ (index : Nat) (argument : Expr) (type : DataType), arguments[index]? = some argument →
    types[index]? = some type → Convertible policy signature (start + index) argument type

theorem allConvertible_nil {start : Nat} {types : List DataType} :
    AllConvertible policy signature start [] types :=
  fun _ _ _ missing => nomatch missing

theorem allConvertible_cons {start : Nat} {argument : Expr} {arguments : List Expr}
    {type : DataType} {types : List DataType} :
    AllConvertible policy signature start (argument :: arguments) (type :: types) ↔
      Convertible policy signature start argument type ∧
        AllConvertible policy signature (start + 1) arguments types := by
  constructor
  · intro all
    refine ⟨all 0 argument type rfl rfl, fun index other otherType atIndex typeAtIndex => ?_⟩
    have stands := all (index + 1) other otherType atIndex typeAtIndex
    rwa [show start + 1 + index = start + (index + 1) by omega]
  · rintro ⟨stands, all⟩ index
    cases index with
    | zero =>
        rintro _ _ ⟨⟩ ⟨⟩
        exact stands
    | succ index =>
        intro other otherType atIndex typeAtIndex
        rw [show start + (index + 1) = start + 1 + index by omega]
        exact all index other otherType atIndex typeAtIndex

/-- The argument at the given index is the first one that cannot stand where it is. -/
structure FirstRefused (policy : Narrowing) (signature : Signature) (start : Nat)
    (arguments : List Expr) (types : List DataType) (index : Nat) (type : DataType) : Prop where
  refused : ∃ argument, arguments[index]? = some argument ∧ types[index]? = some type ∧
    ¬ Convertible policy signature (start + index) argument type
  before : AllConvertible policy signature start (arguments.take index) (types.take index)

/-- **Arguments are converted from left to right**, all of them or up to the first one that
is refused. -/
theorem coerceArguments_cases (policy : Narrowing) (signature : Signature) (start : Nat)
    {arguments : List Expr} {types : List DataType}
    (sameLength : arguments.length = types.length) :
    (AllConvertible policy signature start arguments types ∧
      ∃ converted, coerceArguments policy signature start arguments types = .ok converted) ∨
    ∃ index type, FirstRefused policy signature start arguments types index type ∧
      coerceArguments policy signature start arguments types
        = .error (refusal signature (start + index) type) := by
  induction arguments generalizing start types with
  | nil => exact .inl ⟨allConvertible_nil, [], by simp only [coerceArguments]⟩
  | cons argument rest ih =>
      cases types with
      | nil => cases sameLength
      | cons type types =>
          simp only [coerceArguments]
          rcases coerceArgument_cases policy signature start argument type with
            ⟨stands, converted, here⟩ | ⟨refused, here⟩
          · rcases ih (start + 1) (Nat.succ.inj sameLength) with ⟨all, others, later⟩ |
              ⟨index, other, ⟨⟨found, atIndex, typeAtIndex, refused⟩, before⟩, later⟩
            · refine .inl ⟨allConvertible_cons.mpr ⟨stands, all⟩, converted :: others, ?_⟩
              simp only [here, later]
            · have shifted : start + 1 + index = start + (index + 1) := by omega
              rw [shifted] at refused later
              refine .inr ⟨index + 1, other, ⟨⟨found, atIndex, typeAtIndex, refused⟩,
                allConvertible_cons.mpr ⟨stands, before⟩⟩, ?_⟩
              simp only [here, later]
          · refine .inr ⟨0, type, ⟨⟨argument, rfl, rfl, refused⟩, allConvertible_nil⟩, ?_⟩
            simp only [here, Nat.add_zero]

/-! ## Candidates -/

/-- Among the good candidates the one at the given position comes first in the order of
preference. -/
structure Preferred (types : List DataType) (candidates : List Callable)
    (good : Callable → Prop) (position : Nat) (callable : Callable) : Prop where
  registered : candidates[position]? = some callable
  isGood : good callable
  least : ∀ (other : Nat) (candidate : Callable), candidates[other]? = some candidate →
    good candidate → callable.signature.preference types position
      ≤ candidate.signature.preference types other

/-- Whether calling one candidate costs less than calling another. -/
def cheaper (types : List DataType) (left right : Callable × Nat) : Bool :=
  (CallCost.ofCall left.1 types).below (CallCost.ofCall right.1 types)

/-- The candidates that accept the number of arguments in the order in which they are tried,
with the positions at which they are registered. -/
def ranked (types : List DataType) (count : Nat) (candidates : List Callable) :
    List (Callable × Nat) :=
  stableSort (cheaper types)
    (candidates.zipIdx.filter fun candidate => candidate.1.signature.accepts count)

theorem mem_ranked {types : List DataType} {count : Nat} {candidates : List Callable}
    {callable : Callable} {position : Nat} :
    (callable, position) ∈ ranked types count candidates ↔
      candidates[position]? = some callable ∧ callable.signature.accepts count = true := by
  rw [ranked, mem_stableSort, List.mem_filter, List.mem_zipIdx_iff_getElem?]

/-- Candidates are tried in the order of preference. -/
theorem ranked_pairwise (types : List DataType) (count : Nat) (candidates : List Callable) :
    (ranked types count candidates).Pairwise fun first second =>
      first.1.signature.preference types first.2
        < second.1.signature.preference types second.2 := by
  have inOrder : (candidates.zipIdx.filter fun candidate =>
      candidate.1.signature.accepts count).Pairwise fun first second => first.2 < second.2 := by
    refine List.Pairwise.filter _ ?_
    have numbers : (candidates.zipIdx.map Prod.snd).Pairwise (· < ·) := by
      rw [List.zipIdx_map_snd]
      exact List.pairwise_lt_range'
    exact List.pairwise_map.mp numbers
  have trans : ∀ first second third : Callable × Nat, cheaper types first second = false →
      cheaper types second third = false → cheaper types first third = false :=
    fun _ _ _ => CallCost.not_below_trans
  exact (stableSort_pairwise trans inOrder).imp fun precedes => CallCost.preference_lt precedes

/-- **The first good candidate that is tried is the preferred one.** -/
theorem preferred_of_ranked {types : List DataType} {count : Nat} {candidates : List Callable}
    (good : Callable → Prop) (accepts : ∀ callable, good callable →
      callable.signature.accepts count = true)
    {before later : List (Callable × Nat)} {chosen : Callable} {position : Nat}
    (split : ranked types count candidates = before ++ (chosen, position) :: later)
    (bad : ∀ candidate ∈ before, ¬ good candidate.1) (isGood : good chosen) :
    Preferred types candidates good position chosen := by
  have inOrder := ranked_pairwise types count candidates
  have inRanked : (chosen, position) ∈ ranked types count candidates := by
    rw [split]
    exact List.mem_append_right _ List.mem_cons_self
  refine ⟨(mem_ranked.mp inRanked).1, isGood, fun other candidate atOther otherGood => ?_⟩
  have otherRanked : (candidate, other) ∈ ranked types count candidates :=
    mem_ranked.mpr ⟨atOther, accepts candidate otherGood⟩
  rw [split] at inOrder otherRanked
  rcases List.mem_append.mp otherRanked with inBefore | inRest
  · exact absurd otherGood (bad _ inBefore)
  · obtain ⟨-, restInOrder, -⟩ := List.pairwise_append.mp inOrder
    rcases List.mem_cons.mp inRest with same | inLater
    · cases same
      exact le_refl _
    · exact ((List.pairwise_cons.mp restInOrder).1 _ inLater).le

/-- The positions at which candidates are registered do not change the order in which they
are tried. -/
theorem map_fst_ranked (types : List DataType) (count : Nat) (candidates : List Callable) :
    (ranked types count candidates).map Prod.fst
      = stableSort (fun left right =>
          (CallCost.ofCall left types).below (CallCost.ofCall right types))
        (candidates.filter fun callable => callable.signature.accepts count) := by
  have accepting : candidates.filter (fun callable => callable.signature.accepts count)
      = (candidates.zipIdx.filter fun candidate =>
          candidate.1.signature.accepts count).map Prod.fst := by
    conv_lhs => rw [← List.zipIdx_map_fst 0 candidates, List.filter_map]
    rfl
  rw [accepting, stableSort_map]
  rfl

theorem mem_map_fst_ranked {types : List DataType} {count : Nat} {candidates : List Callable}
    {callable : Callable} :
    callable ∈ (ranked types count candidates).map Prod.fst ↔
      callable ∈ candidates ∧ callable.signature.accepts count = true := by
  rw [map_fst_ranked, mem_stableSort, List.mem_filter]

/-- **The first function whose parameters the arguments can be converted to is chosen.** -/
theorem choose_of_some {arguments : List Expr} {types : List DataType}
    {candidates : List Callable} (missing : AnalysisError)
    (applies : ∃ callable ∈ candidates, ∃ converted,
      coerceArguments policy callable.signature 0 arguments types = .ok converted) :
    ∃ before chosen later converted, candidates = before ++ chosen :: later ∧
      (∀ callable ∈ before, ∀ converted,
        coerceArguments policy callable.signature 0 arguments types ≠ .ok converted) ∧
      coerceArguments policy chosen.signature 0 arguments types = .ok converted ∧
      choose policy arguments types missing candidates = .ok (chosen, converted) := by
  induction candidates with
  | nil =>
      obtain ⟨_, member, -⟩ := applies
      cases member
  | cons first rest ih =>
      cases here : coerceArguments policy first.signature 0 arguments types with
      | ok converted =>
          exact ⟨[], first, rest, converted, rfl, List.forall_mem_nil _, here,
            by simp only [choose, here]⟩
      | error error =>
          obtain ⟨callable, member, converted, result⟩ := applies
          rcases List.mem_cons.mp member with rfl | inRest
          · rw [here] at result
            cases result
          · obtain ⟨before, chosen, later, converted, split, refused, coerced, made⟩ :=
              ih ⟨callable, inRest, converted, result⟩
            refine ⟨first :: before, chosen, later, converted, by rw [split, List.cons_append],
              List.forall_mem_cons.mpr ⟨?_, refused⟩, coerced, ?_⟩
            · intro converted coerced
              rw [here] at coerced
              cases coerced
            · simp only [choose, here, made]

/-- If no function can be chosen, the first one says why. -/
theorem choose_of_none {arguments : List Expr} {types : List DataType}
    {missing error : AnalysisError} {first : Callable} {rest : List Callable}
    (here : coerceArguments policy first.signature 0 arguments types = .error error)
    (refused : ∀ callable ∈ rest, ∀ converted,
      coerceArguments policy callable.signature 0 arguments types ≠ .ok converted) :
    choose policy arguments types missing (first :: rest) = .error error := by
  simp only [choose, here]
  cases later : choose policy arguments types missing rest with
  | ok choice =>
      obtain ⟨member, converted⟩ := of_choose later
      exact absurd converted (refused choice.1 member choice.2)
  | error _ => rfl

/-! ## Calls -/

/-- The function can be called with the arguments, which have the given types: it accepts
their number, and each of them can stand at its position. -/
structure Applicable (policy : Narrowing) (arguments : List Expr) (types : List DataType)
    (callable : Callable) : Prop where
  accepts : callable.signature.accepts arguments.length = true
  converts : AllConvertible policy callable.signature 0 arguments types

/-- The conversion of the arguments succeeds if each of them can stand at its position. -/
theorem exists_coerceArguments_iff {arguments : List Expr} {types : List DataType}
    (sameLength : arguments.length = types.length) :
    (∃ converted, coerceArguments policy signature 0 arguments types = .ok converted) ↔
      AllConvertible policy signature 0 arguments types := by
  rcases coerceArguments_cases policy signature 0 sameLength with
    ⟨all, converted⟩ | ⟨index, type, ⟨⟨argument, atIndex, typeAtIndex, refused⟩, -⟩, result⟩
  · exact ⟨fun _ => all, fun _ => converted⟩
  · rw [result]
    exact ⟨fun ⟨_, converted⟩ => (nomatch converted),
      fun all => absurd (all index argument type atIndex typeAtIndex) refused⟩

variable {scope : FunctionScope} {schema : Schema}

theorem dataTypes_of_forall₂ {arguments : List Expr} {types : List DataType}
    (typed : List.Forall₂ (fun argument type => argument.dataType schema = .ok type)
      arguments types) : dataTypes schema arguments = .ok types := by
  induction typed with
  | nil => rfl
  | cons here _ later => simp only [dataTypes, here, later]

/-- The choice of a function among candidates of which some accept the number of arguments. -/
theorem selectFunction_eq_choose {name : String} {arguments : List Expr}
    {types : List DataType} {candidates : List Callable}
    (typed : List.Forall₂ (fun argument type => argument.dataType schema = .ok type)
      arguments types)
    (found : scope.lookup name = some candidates)
    (accepting : ∃ callable ∈ candidates, callable.signature.accepts arguments.length = true) :
    selectFunction scope schema name arguments
      = (choose scope.narrowing arguments types (.undefinedFunction name)
          ((ranked types arguments.length candidates).map Prod.fst)).mapError .analysis := by
  have someAccept : (candidates.filter fun callable =>
      callable.signature.accepts arguments.length).isEmpty = false := by
    obtain ⟨callable, member, accepts⟩ := accepting
    exact List.isEmpty_eq_false_iff_exists_mem.mpr
      ⟨callable, List.mem_filter.mpr ⟨member, accepts⟩⟩
  simp only [selectFunction, found, someAccept, dataTypes_of_forall₂ typed, map_fst_ranked]
  rfl

/-- **The preferred one of the applicable candidates is chosen.** -/
theorem choose_ranked_of_applicable {arguments : List Expr} {types : List DataType}
    {candidates : List Callable} (missing : AnalysisError)
    (sameLength : arguments.length = types.length)
    (applies : ∃ callable ∈ candidates, Applicable policy arguments types callable) :
    ∃ position chosen converted,
      Preferred types candidates (Applicable policy arguments types) position chosen ∧
      coerceArguments policy chosen.signature 0 arguments types = .ok converted ∧
      choose policy arguments types missing
        ((ranked types arguments.length candidates).map Prod.fst) = .ok (chosen, converted) := by
  have someCoerced : ∃ callable ∈ (ranked types arguments.length candidates).map Prod.fst,
      ∃ converted, coerceArguments policy callable.signature 0 arguments types
        = .ok converted := by
    obtain ⟨callable, member, accepts, converts⟩ := applies
    exact ⟨callable, mem_map_fst_ranked.mpr ⟨member, accepts⟩,
      (exists_coerceArguments_iff sameLength).mpr converts⟩
  obtain ⟨before, _, later, converted, split, refused, coerced, made⟩ :=
    choose_of_some missing someCoerced
  obtain ⟨rankedBefore, _, rankedSplit, rfl, restSplit⟩ := List.map_eq_append_iff.mp split
  obtain ⟨⟨chosen, position⟩, rankedLater, rfl, rfl, rfl⟩ := List.map_eq_cons_iff.mp restSplit
  have inRanked : (chosen, position) ∈ ranked types arguments.length candidates := by
    rw [rankedSplit]
    exact List.mem_append_right _ List.mem_cons_self
  have applicable : Applicable policy arguments types chosen :=
    ⟨(mem_ranked.mp inRanked).2,
      (exists_coerceArguments_iff sameLength).mp ⟨converted, coerced⟩⟩
  have preferred := preferred_of_ranked (Applicable policy arguments types)
    (fun _ applicable => applicable.accepts) rankedSplit
    (fun candidate member ⟨_, converts⟩ => by
      obtain ⟨_, otherCoerced⟩ := (exists_coerceArguments_iff sameLength).mpr converts
      exact refused candidate.1 (List.mem_map_of_mem member) _ otherCoerced)
    applicable
  exact ⟨position, chosen, converted, preferred, coerced, made⟩

/-- **If no candidate is applicable**, the preferred one of those that accept the number of
arguments refuses its first argument that has no conversion. -/
theorem choose_ranked_of_not_applicable {arguments : List Expr} {types : List DataType}
    {candidates : List Callable} (missing : AnalysisError)
    (sameLength : arguments.length = types.length)
    (accepting : ∃ callable ∈ candidates, callable.signature.accepts arguments.length = true)
    (inapplicable : ∀ callable ∈ candidates, ¬ Applicable policy arguments types callable) :
    ∃ position first index type,
      Preferred types candidates
        (fun callable => callable.signature.accepts arguments.length = true) position first ∧
      FirstRefused policy first.signature 0 arguments types index type ∧
      choose policy arguments types missing
        ((ranked types arguments.length candidates).map Prod.fst)
          = .error (refusal first.signature index type) := by
  have fails : ∀ callable ∈ (ranked types arguments.length candidates).map Prod.fst,
      ∀ converted, coerceArguments policy callable.signature 0 arguments types
        ≠ .ok converted := by
    intro callable inRanked converted coerced
    obtain ⟨member, accepts⟩ := mem_map_fst_ranked.mp inRanked
    exact inapplicable callable member
      ⟨accepts, (exists_coerceArguments_iff sameLength).mp ⟨converted, coerced⟩⟩
  cases split : ranked types arguments.length candidates with
  | nil =>
      obtain ⟨callable, member, accepts⟩ := accepting
      have inRanked : callable ∈ (ranked types arguments.length candidates).map Prod.fst :=
        mem_map_fst_ranked.mpr ⟨member, accepts⟩
      rw [split] at inRanked
      cases inRanked
  | cons head rest =>
      obtain ⟨first, position⟩ := head
      have inRanked : (first, position) ∈ ranked types arguments.length candidates := by
        rw [split]
        exact List.mem_cons_self
      have preferred := preferred_of_ranked
        (fun callable => callable.signature.accepts arguments.length = true)
        (fun _ accepts => accepts) (split.trans (List.nil_append _).symm) nofun
        (mem_ranked.mp inRanked).2
      rcases coerceArguments_cases policy first.signature 0 sameLength with
        ⟨-, converted, coerced⟩ | ⟨index, type, refused, result⟩
      · exact absurd coerced (fails first (List.mem_map_of_mem inRanked) converted)
      · rw [split, List.map_cons, List.forall_mem_cons] at fails
        rw [Nat.zero_add] at result
        exact ⟨position, first, index, type, preferred, refused,
          choose_of_none result fails.2⟩

/-- A call whose arguments are resolved becomes the invocation of the chosen function with
the next identity. -/
theorem resolve_call_eq {name : String} {written arguments : List Expr} {next after : Nat}
    (resolved : resolveAll scope schema written next = .ok (arguments, after)) :
    (Expr.call name written).resolve scope schema next
      = (selectFunction scope schema name arguments).map fun choice =>
          (.invocation { id := after, callable := choice.1 } choice.2, after + 1) := by
  have afterArguments : (Expr.call name written).resolve scope schema next
      = resolveCall scope schema name arguments after := by
    rw [resolve]
    simp only [bind, StateT.bind, resolved, Except.bind]
  rw [afterArguments]
  cases selected : selectFunction scope schema name arguments with
  | error error =>
      simp only [resolveCall, selected]
      rfl
  | ok choice =>
      obtain ⟨-, accepts, -⟩ := selectFunction_eq_ok selected
      have sameLength := (converts_of_selectFunction selected).length_eq
      have invoked : invoke? { id := after, callable := choice.1 } choice.2
          = .ok (.invocation { id := after, callable := choice.1 } choice.2) := by
        simp only [invoke?, ← sameLength, accepts, ↓reduceIte]
      simp only [resolveCall, state_bind_eq_ok, state_lift_eq_ok, map_ok, selected]
      exact ⟨choice, after, ⟨rfl, rfl⟩, after, after + 1, rfl,
        mapError_eq_ok.mpr invoked, rfl⟩

/-- No candidate accepts the number of arguments. -/
theorem selectFunction_of_none_accepts {name : String} {arguments : List Expr}
    {candidates : List Callable} (found : scope.lookup name = some candidates)
    (refuse : ∀ callable ∈ candidates, callable.signature.accepts arguments.length = false) :
    selectFunction scope schema name arguments = .error (.analysis (.wrongArity name
      (" or ".intercalate (candidates.map fun callable => callable.signature.arity.text))
      arguments.length)) := by
  have empty : candidates.filter (fun callable =>
      callable.signature.accepts arguments.length) = [] := by
    simpa [List.filter_eq_nil_iff] using refuse
  simp only [selectFunction, found, empty, List.isEmpty_nil, ↓reduceIte]

/-- Resolved arguments have types. -/
theorem exists_types_of_resolveAll {written arguments : List Expr} {next after : Nat}
    (resolved : resolveAll scope schema written next = .ok (arguments, after)) :
    ∃ types, List.Forall₂ (fun argument type => argument.dataType schema = .ok type)
      arguments types := by
  have typed : ∀ argument ∈ arguments, Typed schema argument :=
    forall_mem_of_resolvesTo (forall₂_of_resolveAll resolved) fun _ _ {_ _} => typed_of_resolve
  clear resolved
  induction arguments with
  | nil => exact ⟨[], .nil⟩
  | cons first rest ih =>
      obtain ⟨type, firstTyped⟩ := typed first List.mem_cons_self
      obtain ⟨types, restTyped⟩ := ih fun argument member =>
        typed argument (List.mem_cons_of_mem _ member)
      exact ⟨type :: types, .cons firstTyped.dataType restTyped⟩

/-- What becomes of a call of the given name with resolved arguments of the given types, if
the name stands for the candidates and the next identity is `id`. -/
structure Chooses (scope : FunctionScope) (name : String) (candidates : List Callable)
    (arguments : List Expr) (types : List DataType) (id : Nat)
    (outcome : Except Error (Expr × Nat)) : Prop where
  /-- The name is known. -/
  known : ∀ unknown, outcome ≠ .error (.analysis (.undefinedFunction unknown))
  /-- The number of arguments is refused exactly if no candidate accepts it. -/
  wrongArity : ∀ called expected actual,
    outcome = .error (.analysis (.wrongArity called expected actual)) ↔
      (called = name ∧ actual = arguments.length ∧
        expected = " or ".intercalate
          (candidates.map fun callable => callable.signature.arity.text)) ∧
      ∀ callable ∈ candidates, callable.signature.accepts arguments.length = false
  /-- The call resolves exactly if some candidate can be called with the arguments. -/
  resolves : (∃ result, outcome = .ok result) ↔
    ∃ callable ∈ candidates, Applicable scope.narrowing arguments types callable
  /-- The call goes to the preferred one of the candidates that can be called. -/
  chosen : ∀ result, outcome = .ok result → ∃ position callable converted,
    Preferred types candidates (Applicable scope.narrowing arguments types) position callable ∧
    coerceArguments scope.narrowing callable.signature 0 arguments types = .ok converted ∧
    result = (.invocation { id, callable } converted, id + 1)
  /-- If some candidates accept the number of arguments but none can be called, the preferred
  one of these refuses its first argument that has no conversion. -/
  refused : (∃ callable ∈ candidates, callable.signature.accepts arguments.length = true) →
    (∀ callable ∈ candidates, ¬ Applicable scope.narrowing arguments types callable) →
    ∃ position callable index type,
      Preferred types candidates
        (fun callable => callable.signature.accepts arguments.length = true) position callable ∧
      FirstRefused scope.narrowing callable.signature 0 arguments types index type ∧
      outcome = .error (.analysis (.typeMismatch callable.signature.name (index + 1)
        ((callable.signature.parameterType? index).getD .unresolved) type))

/-- The choice among the candidates, made into the outcome of the call. -/
theorem chooses_of_found {name : String} {arguments : List Expr} {types : List DataType}
    {candidates : List Callable} (id : Nat)
    (typed : List.Forall₂ (fun argument type => argument.dataType schema = .ok type)
      arguments types)
    (found : scope.lookup name = some candidates) :
    Chooses scope name candidates arguments types id
      ((selectFunction scope schema name arguments).map fun choice =>
        (.invocation { id, callable := choice.1 } choice.2, id + 1)) := by
  by_cases accepting : ∃ callable ∈ candidates,
      callable.signature.accepts arguments.length = true
  · have someAccepts : ¬ ∀ callable ∈ candidates,
        callable.signature.accepts arguments.length = false := by
      obtain ⟨callable, member, accepts⟩ := accepting
      intro refuse
      simp only [refuse callable member, Bool.false_eq_true] at accepts
    rw [selectFunction_eq_choose typed found accepting]
    by_cases applies : ∃ callable ∈ candidates,
        Applicable scope.narrowing arguments types callable
    · obtain ⟨position, callable, converted, preferred, coerced, made⟩ :=
        choose_ranked_of_applicable (.undefinedFunction name) typed.length_eq applies
      rw [made]
      exact {
        known := nofun
        wrongArity := fun _ _ _ => ⟨nofun, fun mismatch => absurd mismatch.2 someAccepts⟩
        resolves := ⟨fun _ => applies, fun _ => ⟨_, rfl⟩⟩
        chosen := fun _ result =>
          ⟨position, callable, converted, preferred, coerced, (Except.ok.inj result).symm⟩
        refused := fun _ inapplicable => by
          obtain ⟨callable, member, applicable⟩ := applies
          exact absurd applicable (inapplicable callable member) }
    · have inapplicable : ∀ callable ∈ candidates,
          ¬ Applicable scope.narrowing arguments types callable :=
        fun callable member applicable => applies ⟨callable, member, applicable⟩
      obtain ⟨position, callable, index, type, preferred, refused, made⟩ :=
        choose_ranked_of_not_applicable (.undefinedFunction name) typed.length_eq accepting
          inapplicable
      rw [made]
      exact {
        known := nofun
        wrongArity := fun _ _ _ => ⟨nofun, fun mismatch => absurd mismatch.2 someAccepts⟩
        resolves := ⟨nofun, fun applicable => absurd applicable applies⟩
        chosen := nofun
        refused := fun _ _ => ⟨position, callable, index, type, preferred, refused, rfl⟩ }
  · have refuse : ∀ callable ∈ candidates,
        callable.signature.accepts arguments.length = false := by
      simpa using accepting
    rw [selectFunction_of_none_accepts found refuse]
    refine {
      known := nofun
      wrongArity := fun called expected actual => ⟨?_, ?_⟩
      resolves := ⟨nofun, fun ⟨callable, member, applicable⟩ =>
        absurd ⟨callable, member, applicable.accepts⟩ accepting⟩
      chosen := nofun
      refused := fun accepts => absurd accepts accepting }
    · rintro ⟨⟩
      exact ⟨⟨rfl, rfl, rfl⟩, refuse⟩
    · rintro ⟨⟨rfl, rfl, rfl⟩, -⟩
      rfl

/-- **Overload resolution picks the best applicable candidate.**  A call whose arguments are
resolved fails as undefined exactly if its name is unknown.  Otherwise it goes to the
preferred one of the candidates that can be called with the arguments, of which
`Chooses` says the rest. -/
theorem resolve_call_prefers {name : String} {written arguments : List Expr} {next after : Nat}
    (resolved : resolveAll scope schema written next = .ok (arguments, after)) :
    (∀ unknown, (Expr.call name written).resolve scope schema next
        = .error (.analysis (.undefinedFunction unknown)) ↔
      unknown = name ∧ scope.registered.lookup name = none ∧
        scope.builtin.lookup name = none) ∧
    ∃ types,
      List.Forall₂ (fun argument type => argument.dataType schema = .ok type) arguments types ∧
      ∀ candidates, scope.Offers name candidates →
        Chooses scope name candidates arguments types after
          ((Expr.call name written).resolve scope schema next) := by
  obtain ⟨types, typed⟩ := exists_types_of_resolveAll resolved
  rw [resolve_call_eq resolved]
  refine ⟨fun unknown => ?_, types, typed, fun candidates offers =>
    chooses_of_found after typed (FunctionScope.offers_iff.mp offers)⟩
  rw [← Option.or_eq_none_iff, ← FunctionScope.lookup]
  cases found : scope.lookup name with
  | none =>
      simp only [selectFunction, found]
      constructor
      · rintro ⟨⟩
        exact ⟨rfl, trivial⟩
      · rintro ⟨rfl, -⟩
        rfl
  | some candidates =>
      have chooses := chooses_of_found after typed found
      exact ⟨fun undefined => absurd undefined (chooses.known unknown), nofun⟩

/-- Of four overloads the second one cannot take `1.5`, the third one widens it, and the
first one is variadic, so the last one is called. -/
theorem resolve_call_prefers_of_overloads :
    let overload (parameters : List DataType) (arity : Arity) : Callable := .scalar (.dynamic
      { name := "pick", parameters, returnType := .int, arity } fun _ => .ok .null)
    let candidates := [overload [.decimal] (.variadic 1), overload [.int, .string] (.fixed 2),
      overload [.double, .int] (.fixed 2), overload [.decimal, .int] (.fixed 2)]
    let scope : FunctionScope := {
      registered := { entries := [("pick", candidates)] }
      builtin := { entries := [("pick", []), ("other", candidates)] }
      narrowing := .exact }
    let half : Expr := .literal (.decimal ⟨false, 15, 1, by decide, by decide⟩)
    let call (name : String) (arguments : List Expr) : Except Error (Expr × Nat) :=
      (Expr.call name arguments).resolve scope {} 7
    call "pick" [half, .literal .null] = .ok (.invocation
        ⟨7, overload [.decimal, .int] (.fixed 2)⟩ [half, .cast (.literal .null) .int false], 8) ∧
      (∃ position, Preferred [.decimal, .unresolved] candidates
        (Applicable .exact [half, .literal .null] [.decimal, .unresolved]) position
        (overload [.decimal, .int] (.fixed 2))) ∧
      call "missing" [] = .error (.analysis (.undefinedFunction "missing")) ∧
      call "other" [] = .error (.analysis (.wrongArity "other" "at least 1 or 2 or 2 or 2" 0)) := by
  intro overload candidates scope half call
  have resolved : resolveAll scope {} [half, .literal .null] 7
    = .ok ([half, .literal .null], 7) := rfl
  have outcome : call "pick" [half, .literal .null] = .ok (.invocation
      ⟨7, overload [.decimal, .int] (.fixed 2)⟩ [half, .cast (.literal .null) .int false], 8) :=
    rfl
  obtain ⟨-, types, typed, chooses⟩ := @resolve_call_prefers scope {} "pick" _ _ _ _ resolved
  cases typed with
  | cons halfType rest =>
  cases rest with
  | cons nullType rest =>
  cases rest
  cases halfType
  cases nullType
  obtain ⟨position, callable, converted, preferred, -, same⟩ :=
    (chooses candidates (.inl rfl)).chosen _ outcome
  have isCallable : callable = overload [.decimal, .int] (.fixed 2) := by
    cases same
    rfl
  rw [isCallable] at preferred
  have nothing : resolveAll scope {} [] 7 = .ok ([], 7) := rfl
  obtain ⟨undefined, -⟩ := @resolve_call_prefers scope {} "missing" _ _ _ _ nothing
  obtain ⟨-, _, -, arities⟩ := @resolve_call_prefers scope {} "other" _ _ _ _ nothing
  refine ⟨outcome, ⟨position, preferred⟩, (undefined _).mpr ⟨rfl, rfl, rfl⟩,
    ((arities candidates (.inr ⟨rfl, rfl⟩)).wrongArity _ _ _).mpr ⟨⟨rfl, rfl, rfl⟩, ?_⟩⟩
  simp [candidates, overload, Callable.signature, ScalarFunction.dynamic, Signature.accepts,
    Arity.accepts]

end Expr
end ScalarSql
