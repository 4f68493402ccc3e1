import ScalarSql.Function.Signature
import ScalarSql.Proofs.Computation

/-!
# Accepted signatures

A signature is accepted if its name is an identifier, if it has few enough parameters and as
many as its arity asks for, and if it may mention all of its types, `Signature.check_eq_ok`.
A declared signature is an accepted one with the parts that were given,
`Signature.declare_eq_ok`.  It has a type for every argument that it accepts,
`Signature.exists_parameterType?`.
-/

set_option autoImplicit false

namespace ScalarSql.Signature

theorem checkParameters_eq_ok {position : Nat} {types : List DataType} :
    checkParameters position types = .ok () ↔ ∀ type ∈ types, type.check = .ok () := by
  induction types generalizing position with
  | nil => exact ⟨fun _ => nofun, fun _ => rfl⟩
  | cons type rest ih =>
      rw [checkParameters, List.forall_mem_cons]
      cases checked : type.check with
      | error fault => exact ⟨nofun, fun accepted => nomatch accepted.1⟩
      | ok _ => exact ih.trans ⟨fun later => ⟨rfl, later⟩, And.right⟩

/-- **When a signature is accepted.** -/
theorem check_eq_ok {signature : Signature} :
    signature.check = .ok () ↔
      Text.isIdentifier signature.name = true ∧ signature.parameters.length ≤ maxParameters ∧
        signature.checkArity = .ok () ∧ (∀ type ∈ signature.parameters, type.check = .ok ()) ∧
          signature.returnType.check = .ok () := by
  unfold check
  cases Text.isIdentifier signature.name with
  | false => exact ⟨nofun, fun accepted => nomatch accepted.1⟩
  | true =>
      by_cases few : signature.parameters.length ≤ maxParameters
      · rw [if_neg (by decide), if_neg (Nat.not_lt.mpr few)]
        cases signature.checkArity with
        | error fault => exact ⟨nofun, fun accepted => nomatch accepted.2.2.1⟩
        | ok _ =>
            rw [← @checkParameters_eq_ok 1]
            cases checkParameters 1 signature.parameters with
            | error fault => exact ⟨nofun, fun accepted => nomatch accepted.2.2.2.1⟩
            | ok _ =>
                cases signature.returnType.check with
                | error fault => exact ⟨nofun, fun accepted => nomatch accepted.2.2.2.2⟩
                | ok _ => exact ⟨fun _ => ⟨rfl, few, rfl, rfl, rfl⟩, fun _ => rfl⟩
      · rw [if_neg (by decide), if_pos (Nat.lt_of_not_le few)]
        exact ⟨nofun, fun accepted => absurd accepted.2.1 few⟩

/-- **A declared signature** is accepted and has the parts that were given. -/
theorem declare_eq_ok {name : String} {parameters : List DataType} {returnType : DataType}
    {arity : Arity} {signature : Signature} :
    declare name parameters returnType arity = .ok signature ↔
      signature = { name, parameters, returnType, arity } ∧ signature.check = .ok () := by
  simp only [declare]
  cases checked : check { name, parameters, returnType, arity } with
  | error fault =>
      refine ⟨nofun, ?_⟩
      rintro ⟨rfl, accepted⟩
      cases checked.symm.trans accepted
  | ok _ =>
      constructor
      · intro declared
        exact ⟨(Except.ok.inj declared).symm, Except.ok.inj declared ▸ checked⟩
      · rintro ⟨rfl, -⟩
        rfl

/-! ## Types of parameters -/

variable {signature : Signature}

/-- The type of a parameter is one of the declared types. -/
theorem mem_of_parameterType? {position : Nat} {type : DataType}
    (found : signature.parameterType? position = some type) : type ∈ signature.parameters := by
  unfold parameterType? at found
  split at found
  · exact List.mem_of_getElem? found
  · rcases Option.or_eq_some_iff.mp found with declared | ⟨-, repeated⟩
    · exact List.mem_of_getElem? declared
    · exact List.mem_of_getLast? repeated

/-- **A checked signature declares a type for every argument it accepts.**  The arguments of a
fixed signature have types of their own, and a variadic signature has a last type to repeat,
however many arguments it asks for. -/
theorem exists_parameterType? {count position : Nat} (valid : signature.check = .ok ())
    (accepted : signature.accepts count = true) (bound : position < count) :
    ∃ type, signature.parameterType? position = some type := by
  have fits := (check_eq_ok.mp valid).2.2.1
  unfold checkArity at fits
  unfold accepts Arity.accepts at accepted
  unfold parameterType?
  split at fits
  · next expected isFixed =>
      simp only [isFixed, beq_iff_eq] at accepted ⊢
      split at fits
      · next sameLength =>
          have inParameters : position < signature.parameters.length := by omega
          exact ⟨_, List.getElem?_eq_getElem inParameters⟩
      · cases fits
  · next least isVariadic =>
      split at fits
      · cases fits
      · next repeats =>
          simp only [Bool.or_eq_true, not_or, List.isEmpty_iff] at repeats
          have last := List.getLast?_eq_some_getLast repeats.1
          cases signature.parameters[position]? with
          | some type => exact ⟨type, rfl⟩
          | none => exact ⟨_, last⟩

end ScalarSql.Signature
