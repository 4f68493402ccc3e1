import ScalarSql.Proofs.Function.HostType
import ScalarSql.Proofs.Function.Signature

/-!
# Calls of typed functions

A typed function is called on values, and its body runs on data.  Calling it on the values of
some data runs the body once, on this data, and tells the caller what comes of it: the value
of its result, or its failure under the name of the function, `HostType.told`.  Where a
parameter is not optional and its argument is `NULL`, the result is `NULL` and the body does
not run, whatever the other arguments are.

**When a body runs.**  The body of a function here is a mere map from arguments to outcomes,
and whether it ran does not show in a result.  `ScalarFunction.invokeWith` therefore makes the
same call with a body that acts in some monad while it runs.  With bodies that do not act it
is the call, `ScalarFunction.invokeWith_pure`.  A call that is `pure` in every monad, for
every body, does not run it.

**Main result.**  `ScalarFunction.invoke_typed`.
-/

set_option autoImplicit false

namespace ScalarSql

namespace ScalarFunction

/-! ## Calls with bodies that act -/

/-- What a call makes of the outcome of its body. -/
def report (function : ScalarFunction) : Outcome Value → Except Error Value
  | .panic none => .error (function.failed "panicked")
  | .panic (some message) => .error (function.failed ("panicked: " ++ message))
  | .failure message => .error (function.failed message)
  | .value result =>
      if result.hasType function.signature.returnType then .ok result
      else
        .error (function.failed ("returned " ++ result.ownType.text ++ " but declares "
          ++ function.signature.returnType.text))

/-- A call with as many arguments as it should have, and without a `NULL` where it should not be,
reports what comes of the body. -/
theorem invoke_eq_report {function : ScalarFunction} {arguments : List Value}
    (accepted : function.signature.accepts arguments.length = true)
    (present : function.hasUnexpectedNull 0 arguments = false) :
    function.invoke arguments = function.report (function.body arguments) := by
  rw [invoke, accepted, present]
  cases function.body arguments with
  | panic message => cases message <;> rfl
  | failure message => rfl
  | value result => rfl

/-- Calls the function with a body in place of its own that may act while it runs. -/
def invokeWith {m : Type → Type} [Monad m] (function : ScalarFunction)
    (body : List Value → m (Outcome Value)) (arguments : List Value) : m (Except Error Value) :=
  if !function.signature.accepts arguments.length then
    pure (.error (function.failed ("expected " ++ function.signature.arity.text
      ++ " arguments, got " ++ Nat.repr arguments.length)))
  else if function.hasUnexpectedNull 0 arguments then pure (.ok .null)
  else function.report <$> body arguments

/-- **A call is a call with its own body**, which does not act. -/
theorem invokeWith_pure {m : Type → Type} [Monad m] [LawfulMonad m] (function : ScalarFunction)
    (arguments : List Value) :
    function.invokeWith (m := m) (fun arguments => pure (function.body arguments)) arguments
      = pure (function.invoke arguments) := by
  unfold invokeWith
  split
  · next refused => rw [invoke, if_pos refused]
  · next accepted =>
      split
      · next unexpected => rw [invoke, if_neg accepted, if_pos unexpected]
      · next expected =>
          rw [map_pure, invoke_eq_report (by simpa using accepted) (by simpa using expected)]

/-! ## Arguments that are `NULL` -/

/-- An argument is unexpected if it is `NULL` at a position that does not expect it. -/
theorem hasUnexpectedNull_iff {function : ScalarFunction} {position : Nat}
    {arguments : List Value} :
    function.hasUnexpectedNull position arguments = true ↔
      ∃ index, arguments[index]? = some .null ∧
        function.expectsNull (position + index) = false := by
  induction arguments generalizing position with
  | nil => simp [hasUnexpectedNull]
  | cons argument rest ih =>
      rw [hasUnexpectedNull, Bool.or_eq_true, ih, Bool.and_eq_true, Value.isNull_iff,
        Bool.not_eq_true']
      constructor
      · rintro (⟨rfl, unexpected⟩ | ⟨index, isNull, unexpected⟩)
        · exact ⟨0, rfl, unexpected⟩
        · exact ⟨index + 1, isNull, by rwa [Nat.add_right_comm] at unexpected⟩
      · rintro ⟨index, isNull, unexpected⟩
        cases index with
        | zero => exact .inl ⟨Option.some.inj isNull, unexpected⟩
        | succ index => exact .inr ⟨index, isNull, by rwa [Nat.add_right_comm]⟩

end ScalarFunction

/-! ## Typed functions -/

namespace HostType

/-- What the caller of a typed function is told: the value of the result, or a failure under
the name of the function that is not tied to a row. -/
def told (name : String) (result : HostType) : Outcome result.Carrier → Except Error Value
  | .value data => .ok (result.encode data)
  | .failure message => .error (.functionFailed name none message)
  | .panic none => .error (.functionFailed name none "panicked")
  | .panic (some message) => .error (.functionFailed name none ("panicked: " ++ message))

/-- The body that runs a typed body, which may act, on the data of its arguments. -/
def bodyOf {m : Type → Type} [Monad m] (parameters : List HostType) (result : HostType)
    (body : Arguments parameters → m (Outcome result.Carrier)) (arguments : List Value) :
    m (Outcome Value) :=
  match decodeArguments parameters arguments with
  | .error message => pure (.failure message)
  | .ok data => Outcome.map result.encode <$> body data

/-- There is a value for every parameter, and it is `NULL` for one that is not optional. -/
def LacksData (parameters : List HostType) (values : List Value) : Prop :=
  values.length = parameters.length ∧
    ∃ (position : Nat) (type : HostType), parameters[position]? = some type ∧
      type.isNullable = false ∧ values[position]? = some .null

theorem length_encodeArguments : ∀ (types : List HostType) (data : Arguments types),
    (encodeArguments types data).length = types.length
  | [], _ => rfl
  | _ :: rest, data => congrArg Nat.succ (length_encodeArguments rest data.2)

/-- Where data is passed as `NULL`, the parameter is optional. -/
theorem isNullable_of_encodeArguments : ∀ (types : List HostType) (data : Arguments types)
    {position : Nat}, (encodeArguments types data)[position]? = some .null →
      ∃ type, types[position]? = some type ∧ type.isNullable = true
  | [], _, _, isNull => nomatch isNull
  | type :: _, data, 0, isNull => by
      refine ⟨type, rfl, ?_⟩
      by_contra required
      have there := isNull_encode data.1 (eq_false_of_ne_true required)
      rw [Option.some.inj isNull] at there
      cases there
  | _ :: rest, data, _ + 1, isNull => isNullable_of_encodeArguments rest data.2 isNull

/-- Arguments are read back as the data they were written from. -/
theorem decodeArguments_encodeArguments : ∀ (types : List HostType) (data : Arguments types),
    (∀ type ∈ types, type.hasFlatOptions = true) →
      (∀ type ∈ types, type.dataType.check = .ok ()) →
        decodeArguments types (encodeArguments types data) = .ok data
  | [], _, _, _ => rfl
  | type :: rest, data, flat, accepted => by
      obtain ⟨flatHere, flatLater⟩ := List.forall_mem_cons.mp flat
      obtain ⟨here, later⟩ := List.forall_mem_cons.mp accepted
      rw [encodeArguments, decodeArguments, decode_encode type data.1 flatHere here,
        decodeArguments_encodeArguments rest data.2 flatLater later]
      rfl

end HostType

namespace ScalarFunction

open HostType (Arguments LacksData encodeArguments told bodyOf)

variable {name : String} {parameters : List HostType} {result : HostType}
  {body : Arguments parameters → Outcome result.Carrier} {function : ScalarFunction}

/-- **A declared typed function** has a signature that its types determine. -/
theorem typed_eq_ok (declared : typed name parameters result body = .ok function) :
    ∃ signature : Signature, signature.check = .ok () ∧ signature.name = name ∧
      signature.parameters = parameters.map HostType.dataType ∧
      signature.returnType = result.dataType ∧ signature.arity = .fixed parameters.length ∧
      function = {
        signature
        nullable := parameters.map HostType.isNullable
        deterministic := true
        body := fun arguments => Id.run (bodyOf parameters result (pure ∘ body) arguments) } := by
  obtain ⟨signature, accepted, made⟩ := map_eq_ok.mp declared
  obtain ⟨rfl, valid⟩ := Signature.declare_eq_ok.mp accepted
  refine ⟨_, valid, rfl, rfl, rfl, congrArg Arity.fixed (List.length_map _), made.symm.trans ?_⟩
  apply (ScalarFunction.mk.injEq ..).mpr
  refine ⟨rfl, rfl, rfl, ?_⟩
  funext arguments
  unfold bodyOf
  cases HostType.decodeArguments parameters arguments with
  | error message => rfl
  | ok data => rfl

/-- A declared typed function expects `NULL` exactly where its parameter is optional. -/
theorem expectsNull_of_typed (declared : typed name parameters result body = .ok function)
    {position : Nat} {type : HostType} (atPosition : parameters[position]? = some type) :
    function.expectsNull position = type.isNullable := by
  obtain ⟨_, -, -, -, -, -, rfl⟩ := typed_eq_ok declared
  simp [expectsNull, atPosition]

theorem accepts_of_typed (declared : typed name parameters result body = .ok function)
    (count : Nat) : function.signature.accepts count = (count == parameters.length) := by
  obtain ⟨_, -, -, -, -, arity, rfl⟩ := typed_eq_ok declared
  simp only [Signature.accepts, arity, Arity.accepts]

/-- The result of a typed body has the declared type, so it is told as it is. -/
theorem report_of_typed (declared : typed name parameters result body = .ok function)
    (outcome : Outcome result.Carrier) :
    function.report (outcome.map result.encode) = told name result outcome := by
  obtain ⟨_, -, rfl, -, returns, -, rfl⟩ := typed_eq_ok declared
  cases outcome with
  | value data =>
      simp only [Outcome.map, report, returns, HostType.hasType_encode, if_true]
      rfl
  | failure message => rfl
  | panic message => cases message <;> rfl

section Acting

variable {m : Type → Type} [Monad m] (act : Arguments parameters → m (Outcome result.Carrier))

/-- **On the values of data** a body runs once, on this data. -/
theorem invokeWith_encodeArguments [LawfulMonad m]
    (flat : ∀ type ∈ parameters, type.hasFlatOptions = true)
    (declared : typed name parameters result body = .ok function) (data : Arguments parameters) :
    function.invokeWith (bodyOf parameters result act) (encodeArguments parameters data)
      = told name result <$> act data := by
  have expected : function.hasUnexpectedNull 0 (encodeArguments parameters data) = false := by
    by_contra unexpected
    obtain ⟨position, isNull, unexpected⟩ :=
      hasUnexpectedNull_iff.mp (eq_true_of_ne_false unexpected)
    obtain ⟨type, atPosition, optional⟩ :=
      HostType.isNullable_of_encodeArguments parameters data isNull
    rw [Nat.zero_add, expectsNull_of_typed declared atPosition, optional] at unexpected
    cases unexpected
  have accepted : ∀ type ∈ parameters, type.dataType.check = .ok () := by
    obtain ⟨_, valid, -, types, -⟩ := typed_eq_ok declared
    have checked := (Signature.check_eq_ok.mp valid).2.2.2.1
    rwa [types, List.forall_mem_map] at checked
  have back := HostType.decodeArguments_encodeArguments parameters data flat accepted
  have reported : function.report ∘ Outcome.map result.encode = told name result :=
    funext (report_of_typed declared)
  rw [invokeWith, accepts_of_typed declared, HostType.length_encodeArguments, beq_self_eq_true,
    expected, bodyOf, back]
  show function.report <$> Outcome.map result.encode <$> act data = told name result <$> act data
  rw [← comp_map, reported]

/-- **Where data is lacking** no body runs. -/
theorem invokeWith_of_lacksData (declared : typed name parameters result body = .ok function)
    {values : List Value} (lacking : LacksData parameters values) :
    function.invokeWith (bodyOf parameters result act) values = pure (.ok .null) := by
  obtain ⟨complete, position, type, atPosition, required, isNull⟩ := lacking
  have unexpected : function.hasUnexpectedNull 0 values = true := by
    refine hasUnexpectedNull_iff.mpr ⟨position, isNull, ?_⟩
    rw [Nat.zero_add, expectsNull_of_typed declared atPosition, required]
  rw [invokeWith, accepts_of_typed declared, complete, beq_self_eq_true, unexpected]
  rfl

end Acting

/-- **Typed functions are called faithfully.**  Let a typed function be declared whose
parameters have flat options.  Called on the values of some data, it tells what comes of its
body on this data; called where data is lacking, it gives `NULL`.  With a body that acts while
it runs, the first call acts like the body on the data and the second one does not act: the
body runs once and not at all. -/
theorem invoke_typed (flat : ∀ type ∈ parameters, type.hasFlatOptions = true)
    (declared : typed name parameters result body = .ok function) :
    (∀ data, function.invoke (encodeArguments parameters data) = told name result (body data)) ∧
      (∀ values, LacksData parameters values → function.invoke values = .ok .null) ∧
      ∀ (m : Type → Type) [Monad m] [LawfulMonad m]
        (act : Arguments parameters → m (Outcome result.Carrier)),
        (∀ data, function.invokeWith (bodyOf parameters result act)
            (encodeArguments parameters data) = told name result <$> act data) ∧
          ∀ values, LacksData parameters values →
            function.invokeWith (bodyOf parameters result act) values = pure (.ok .null) := by
  have own : ∀ values, function.invoke values
      = Id.run (function.invokeWith (bodyOf parameters result (pure ∘ body)) values) := by
    intro values
    have same := invokeWith_pure (m := Id) function values
    obtain ⟨_, -, -, -, -, -, rfl⟩ := typed_eq_ok declared
    exact same.symm
  refine ⟨?_, ?_, ?_⟩
  · intro data
    rw [own, invokeWith_encodeArguments _ flat declared]
    rfl
  · intro values lacking
    rw [own, invokeWith_of_lacksData _ declared lacking]
    rfl
  · intro m _ _ act
    exact ⟨invokeWith_encodeArguments act flat declared,
      fun _ lacking => invokeWith_of_lacksData act declared lacking⟩

/-- A function of a record and an optional number that panics without the number. -/
theorem invoke_typed_of_record :
    let point : HostType := .record [("x", .int), ("label", .optional .string)]
    let parameters : List HostType := [point, .optional .long]
    let body : Arguments parameters → Outcome (HostType.list point).Carrier := fun data =>
      match data.2.1 with
      | some _ => .value [data.1, data.1]
      | none => .panic (some "no number")
    let unlabelled : Value := .struct [("x", .int (BoundedInt.wrap 7)), ("label", .null)]
    let number : Value := .long (BoundedInt.wrap 2)
    ∃ function, typed "twice" parameters (.list point) body = .ok function ∧
      function.invoke [unlabelled, number] = .ok (.array [unlabelled, unlabelled]) ∧
      function.invoke [unlabelled, .null]
        = .error (.functionFailed "twice" none "panicked: no number") ∧
      function.invoke [.null, number] = .ok .null := by
  intro point parameters body unlabelled number
  have flat : ∀ type ∈ parameters, type.hasFlatOptions = true := by decide
  have accepted : Signature.check ⟨"twice", parameters.map HostType.dataType,
      (HostType.list point).dataType, .fixed 2⟩ = .ok () := by
    subst parameters point
    rfl
  have declared : typed "twice" parameters (.list point) body = .ok _ :=
    congrArg (Except.map _) (Signature.declare_eq_ok.mpr ⟨rfl, accepted⟩)
  obtain ⟨called, missing, -⟩ := invoke_typed flat declared
  let data : point.Carrier := (BoundedInt.wrap 7, none, ())
  exact ⟨_, declared, called (data, some (BoundedInt.wrap 2), ()), called (data, none, ()),
    missing [.null, number] ⟨rfl, 0, point, rfl, rfl, rfl⟩⟩

end ScalarFunction

end ScalarSql
