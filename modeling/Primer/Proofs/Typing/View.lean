import Primer.Proofs.Typing.Statement

/-! Checking as a relation between a tree and its typed form.

One rule for each form relates the outermost node of the tree to that of the typed tree and leaves
the parts to the checker. Read from either side, a rule tells what stands on the other.
-/

set_option autoImplicit false

namespace Primer

inductive Expr.Typed (names : Names) : Expr → Expr → Ty → Prop where
  | literal {value : Literal} {written : Option Ty} {type : Ty} (passed : value.check = .ok type) :
    Typed names (.literal value written) (.literal value type) type
  | group {inner inner' : Expr} {written : Option Ty} {type : Ty}
      (checked : inner.check names = .ok (inner', type)) :
    Typed names (.group inner written) (.group inner' type) type
  | binary {operator : Operator} {left right left' right' : Expr} {written : Option Ty}
      {leftType rightType type : Ty} (leftChecked : left.check names = .ok (left', leftType))
      (rightChecked : right.check names = .ok (right', rightType))
      (result : operator.resultType? leftType rightType = some type) :
    Typed names (.binary operator left right written) (.binary operator left' right' type) type
  | named {name : String} {bound : Option Variable} {written : Option Ty} {binding : Variable}
      (found : names.getVariable? name = some binding) (single : binding.isList = false) :
    Typed names (.named name bound written) (.named name binding binding.type) binding.type
  | element {name : String} {index index' : Expr} {bound : Option Variable} {written : Option Ty}
      {binding : Variable} {indexType : Ty} (found : names.getVariable? name = some binding)
      (list : binding.isList = true) (checked : index.check names = .ok (index', indexType))
      (accepted : Ty.accepts .integer indexType) :
    Typed names (.element name index bound written) (.element name index' binding binding.type)
      binding.type
  | call {name : String} {arguments arguments' : List Expr} {bound : Option Signature}
      {written : Option Ty} {signature : Signature}
      (found : names.getFunction? name arguments.length = some signature)
      (checked : Expr.checkArguments names arguments signature.parameterTypes = .ok arguments') :
    Typed names (.call name arguments bound written)
      (.call name arguments' signature signature.returnType) signature.returnType

theorem Expr.typed_of_check {names : Names} {expr typed : Expr} {type : Ty}
    (checked : expr.check names = .ok (typed, type)) : Expr.Typed names expr typed type := by
  cases expr with
  | literal value written =>
    obtain ⟨passed, rfl⟩ := check_literal checked
    exact .literal passed
  | group inner written =>
    obtain ⟨inner', innerChecked, rfl⟩ := check_group checked
    exact .group innerChecked
  | binary operator left right written =>
    obtain ⟨left', leftType, right', rightType, leftChecked, rightChecked, result, rfl⟩ :=
      check_binary checked
    exact .binary leftChecked rightChecked result
  | named name bound written =>
    obtain ⟨binding, found, single, rfl, rfl⟩ := check_named checked
    exact .named found single
  | element name index bound written =>
    obtain ⟨binding, index', indexType, found, list, indexChecked, accepted, rfl, rfl⟩ :=
      check_element checked
    exact .element found list indexChecked accepted
  | call name arguments bound written =>
    obtain ⟨signature, arguments', found, argumentsChecked, rfl, rfl⟩ := check_call checked
    exact .call found argumentsChecked
  | list elements elementType written => exact absurd checked check_list

inductive Stmt.Typed (before : Checker) : Stmt → Stmt → Checker → Prop where
  | expression {value value' : Expr} {type : Ty} (called : value.isCall = true)
      (checked : value.check before.names = .ok (value', type)) :
    Typed before (.expression value) (.expression value') before
  | declaration {name : String} {typeName : Option String} {value value' : Option Expr}
      {bound : Option Variable} {binding : Variable}
      (declared : Variable.declare before.names name typeName true value = .ok (value', binding)) :
    Typed before (.declaration name typeName value bound)
      (.declaration name typeName value' binding)
      { before with names := before.names.defineVariable name binding }
  | assignment {target target' value value' : Expr} {expected actual : Ty}
      (targetChecked : Check.receiver target before = .ok (target', expected) before)
      (valueChecked : value.check before.names = .ok (value', actual))
      (accepted : expected.accepts actual) :
    Typed before (.assignment target value) (.assignment target' value') before
  | conditional {test test' : Expr} {thenBody elseBody thenBody' elseBody' : List Stmt}
      {middle last : Checker} (testChecked : test.check before.names = .ok (test', .boolean))
      (nonempty : thenBody ≠ [])
      (thenChecked : checkAll thenBody before.inside = .ok thenBody' middle)
      (elseChecked : checkAll elseBody (middle.comeBack before.names.current).inside =
        .ok elseBody' last) :
    Typed before (.conditional test thenBody elseBody) (.conditional test' thenBody' elseBody')
      (last.comeBack before.names.current)
  | loop {test test' : Expr} {body body' : List Stmt} {last : Checker}
      (testChecked : test.check before.names = .ok (test', .boolean))
      (bodyChecked : checkAll body before.inside = .ok body' last) :
    Typed before (.loop test body) (.loop test' body') (last.comeBack before.names.current)
  | switch {value value' : Expr} {type : Ty} {cases cases' : List Case} {after : Checker}
      (valueChecked : value.check before.names = .ok (value', type))
      (casesChecked : Case.checkAll type cases before = .ok cases' after) :
    Typed before (.switch value cases) (.switch value' cases') after
  | returns {value value' : Expr} {actual : Ty} {body : Checker.Body}
      (inside : before.body = some body)
      (checked : value.check before.names = .ok (value', actual))
      (accepted : body.signature.returnType.accepts actual) :
    Typed before (.returns value) (.returns value')
      { before with body := some { body with returns := body.returns + 1 } }

theorem Stmt.typed_of_check {statement typed : Stmt} {before after : Checker}
    (checked : statement.check before = .ok typed after) :
    Stmt.Typed before statement typed after := by
  cases statement with
  | expression value =>
    obtain ⟨value', type, called, valueChecked, rfl, rfl⟩ := check_expression checked
    exact .expression called valueChecked
  | declaration name typeName value bound =>
    obtain ⟨value', binding, declared, rfl, rfl⟩ := check_declaration checked
    exact .declaration declared
  | assignment target value =>
    obtain ⟨target', expected, value', actual, targetChecked, valueChecked, accepted, rfl, rfl⟩ :=
      check_assignment checked
    exact .assignment targetChecked valueChecked accepted
  | conditional test thenBody elseBody =>
    obtain ⟨test', thenBody', elseBody', middle, last, testChecked, nonempty, thenChecked,
      elseChecked, rfl, rfl⟩ := check_conditional checked
    exact .conditional testChecked nonempty thenChecked elseChecked
  | loop test body =>
    obtain ⟨test', body', last, testChecked, bodyChecked, rfl, rfl⟩ := check_loop checked
    exact .loop testChecked bodyChecked
  | switch value cases =>
    obtain ⟨value', type, cases', valueChecked, casesChecked, rfl⟩ := check_switch checked
    exact .switch valueChecked casesChecked
  | returns value =>
    obtain ⟨body, value', actual, inside, valueChecked, accepted, rfl, rfl⟩ :=
      check_returns checked
    exact .returns inside valueChecked accepted

inductive Stmt.AllTyped (before after : Checker) : List Stmt → List Stmt → Prop where
  | nil (same : after = before) : AllTyped before after [] []
  | cons {first first' : Stmt} {rest rest' : List Stmt} {middle : Checker}
      (firstChecked : first.check before = .ok first' middle)
      (restChecked : checkAll rest middle = .ok rest' after) :
    AllTyped before after (first :: rest) (first' :: rest')

theorem Stmt.allTyped_of_checkAll {statements typed : List Stmt} {before after : Checker}
    (checked : checkAll statements before = .ok typed after) :
    Stmt.AllTyped before after statements typed := by
  cases statements with
  | nil =>
    obtain ⟨rfl, rfl⟩ := checkAll_nil checked
    exact .nil rfl
  | cons first rest =>
    obtain ⟨first', rest', middle, firstChecked, restChecked, rfl⟩ := checkAll_cons checked
    exact .cons firstChecked restChecked

inductive Case.AllTyped (type : Ty) (before after : Checker) : List Case → List Case → Prop where
  | nil (same : after = before) : AllTyped type before after [] []
  | matching {value value' : Expr} {body body' : List Stmt} {rest rest' : List Case}
      {last : Checker} (valueChecked : value.check before.names = .ok (value', type))
      (bodyChecked : Stmt.checkAll body before.inside = .ok body' last)
      (restChecked : checkAll type rest (last.comeBack before.names.current) = .ok rest' after) :
    AllTyped type before after (.matching value body :: rest) (.matching value' body' :: rest')
  | otherwise {body body' : List Stmt} {last : Checker}
      (bodyChecked : Stmt.checkAll body before.inside = .ok body' last)
      (same : after = last.comeBack before.names.current) :
    AllTyped type before after [.otherwise body] [.otherwise body']

theorem Case.allTyped_of_checkAll {type : Ty} {cases typed : List Case} {before after : Checker}
    (checked : checkAll type cases before = .ok typed after) :
    Case.AllTyped type before after cases typed := by
  cases cases with
  | nil =>
    obtain ⟨rfl, rfl⟩ := checkAll_nil checked
    exact .nil rfl
  | cons first rest =>
    cases first with
    | matching value body =>
      obtain ⟨value', body', rest', last, valueChecked, bodyChecked, restChecked, rfl⟩ :=
        checkAll_matching checked
      exact .matching valueChecked bodyChecked restChecked
    | otherwise body =>
      obtain ⟨body', last, rfl, bodyChecked, rfl, rfl⟩ := checkAll_otherwise checked
      exact .otherwise bodyChecked rfl

end Primer
