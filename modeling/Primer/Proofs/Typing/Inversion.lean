import Mathlib.Data.List.Forall2
import Primer.Proofs.Success
import Primer.Typing.Expression

/-! What it takes for an expression to be accepted, and what it is given.

One rule for each form, read from the accepted expression back to its parts.
-/

set_option autoImplicit false

namespace Primer

theorem Ty.accepts_refl (type : Ty) : type.accepts type := by
  simp [accepts]

theorem Ty.accepts_of_require {target actual : Ty} {done : Unit}
    (required : target.require actual = .ok done) : target.accepts actual := by
  unfold require at required
  split at required
  · assumption
  · cases required

theorem Ty.name_of_resolve {name : String} {type : Ty} (resolved : resolve name = .ok type) :
    ofName? name = some type := by
  unfold resolve at resolved
  split at resolved
  · next found => cases resolved; exact found
  · cases resolved

theorem Ty.names_of_resolve {typeName : Option String} {wanted : Option Ty}
    (resolved : typeName.mapM resolve = .ok wanted) : typeName.map ofName? = wanted.map some := by
  cases typeName with
  | none => cases resolved; rfl
  | some spelt =>
    obtain ⟨type, found, resolved⟩ := Except.bind_eq_ok.mp resolved
    cases resolved
    exact congrArg some (name_of_resolve found)

theorem Names.getVariable?_of_findVariable {names : Names} {name : String} {binding : Variable}
    (found : names.findVariable name = .ok binding) : names.getVariable? name = some binding := by
  unfold findVariable at found
  split at found
  · next looked => cases found; exact looked
  · cases found

theorem Names.getFunction?_of_findFunction {names : Names} {name : String} {arity : Nat}
    {signature : Signature} (found : names.findFunction name arity = .ok signature) :
    names.getFunction? name arity = some signature := by
  unfold findFunction at found
  split at found
  · next looked => cases found; exact looked
  · cases found

theorem Operator.resultType?_of_resultType {operator : Operator} {left right type : Ty}
    (found : operator.resultType left right = .ok type) :
    operator.resultType? left right = some type := by
  unfold resultType at found
  split at found
  · next result => cases found; exact result
  · cases found

namespace Expr

variable {names : Names} {typed : Expr} {type : Ty} {written : Option Ty}

theorem check_literal {value : Literal}
    (checked : (literal value written).check names = .ok (typed, type)) :
    value.check = .ok type ∧ typed = .literal value type := by
  obtain ⟨found, passed, checked⟩ := Except.bind_eq_ok.mp checked
  cases checked
  exact ⟨passed, rfl⟩

theorem check_group {inner : Expr}
    (checked : (group inner written).check names = .ok (typed, type)) :
    ∃ inner', inner.check names = .ok (inner', type) ∧ typed = .group inner' type := by
  obtain ⟨⟨inner', found⟩, innerChecked, checked⟩ := Except.bind_eq_ok.mp checked
  cases checked
  exact ⟨inner', innerChecked, rfl⟩

theorem check_binary {operator : Operator} {left right : Expr}
    (checked : (binary operator left right written).check names = .ok (typed, type)) :
    ∃ left' leftType right' rightType, left.check names = .ok (left', leftType) ∧
      right.check names = .ok (right', rightType) ∧
      operator.resultType? leftType rightType = some type ∧
      typed = .binary operator left' right' type := by
  obtain ⟨⟨left', leftType⟩, leftChecked, checked⟩ := Except.bind_eq_ok.mp checked
  obtain ⟨⟨right', rightType⟩, rightChecked, checked⟩ := Except.bind_eq_ok.mp checked
  obtain ⟨found, result, checked⟩ := Except.bind_eq_ok.mp checked
  cases checked
  exact ⟨left', leftType, right', rightType, leftChecked, rightChecked,
    Operator.resultType?_of_resultType result, rfl⟩

theorem check_named {name : String} {bound : Option Variable}
    (checked : (named name bound written).check names = .ok (typed, type)) :
    ∃ binding, names.getVariable? name = some binding ∧ binding.isList = false ∧
      type = binding.type ∧ typed = .named name binding type := by
  obtain ⟨binding, found, checked⟩ := Except.bind_eq_ok.mp checked
  cases list : binding.isList with
  | true => rw [list] at checked; cases checked
  | false =>
    rw [list] at checked
    cases checked
    exact ⟨binding, Names.getVariable?_of_findVariable found, list, rfl, rfl⟩

theorem check_element {name : String} {index : Expr} {bound : Option Variable}
    (checked : (element name index bound written).check names = .ok (typed, type)) :
    ∃ binding index' indexType, names.getVariable? name = some binding ∧ binding.isList = true ∧
      index.check names = .ok (index', indexType) ∧ Ty.accepts .integer indexType ∧
      type = binding.type ∧ typed = .element name index' binding type := by
  obtain ⟨binding, found, checked⟩ := Except.bind_eq_ok.mp checked
  cases list : binding.isList with
  | false => rw [list] at checked; cases checked
  | true =>
    rw [list] at checked
    obtain ⟨⟨index', indexType⟩, indexChecked, checked⟩ := Except.bind_eq_ok.mp checked
    obtain ⟨done, required, checked⟩ := Except.bind_eq_ok.mp checked
    cases checked
    exact ⟨binding, index', indexType, Names.getVariable?_of_findVariable found, list, indexChecked,
      Ty.accepts_of_require required, rfl, rfl⟩

theorem check_call {name : String} {arguments : List Expr} {bound : Option Signature}
    (checked : (call name arguments bound written).check names = .ok (typed, type)) :
    ∃ signature arguments', names.getFunction? name arguments.length = some signature ∧
      checkArguments names arguments signature.parameterTypes = .ok arguments' ∧
      type = signature.returnType ∧ typed = .call name arguments' signature type := by
  obtain ⟨signature, found, checked⟩ := Except.bind_eq_ok.mp checked
  obtain ⟨arguments', argumentsChecked, checked⟩ := Except.bind_eq_ok.mp checked
  cases checked
  exact ⟨signature, arguments', Names.getFunction?_of_findFunction found, argumentsChecked, rfl,
    rfl⟩

theorem check_list {elements : List Expr} {elementType : Option Ty} :
    (list elements elementType written).check names ≠ .ok (typed, type) := by
  rw [check]
  exact nofun

def CheckAll (names : Names) : List Expr → List Expr → List Ty → Prop
  | [], [], [] => True
  | first :: rest, typed :: others, type :: types =>
    first.check names = .ok (typed, type) ∧ CheckAll names rest others types
  | _, _, _ => False

theorem CheckAll.lengths {exprs others : List Expr} {types : List Ty}
    (checked : CheckAll names exprs others types) :
    exprs.length = others.length ∧ others.length = types.length := by
  induction exprs generalizing others types with
  | nil =>
    cases others <;> cases types <;> first | exact checked.elim | exact ⟨rfl, rfl⟩
  | cons first rest ih =>
    cases others <;> cases types <;> try exact checked.elim
    obtain ⟨-, tail⟩ := checked
    have lengths := ih tail
    simp only [List.length_cons]
    omega

theorem checkAll_of_checkArguments {arguments arguments' : List Expr} {parameters : List Ty}
    (same : arguments.length = parameters.length)
    (checked : checkArguments names arguments parameters = .ok arguments') :
    ∃ types, CheckAll names arguments arguments' types ∧
      List.Forall₂ (fun parameter type => Ty.accepts parameter type = true) parameters types := by
  induction arguments generalizing arguments' parameters with
  | nil =>
    cases parameters with
    | nil =>
      rw [checkArguments.eq_def] at checked
      cases checked
      exact ⟨[], trivial, .nil⟩
    | cons parameter parameters => cases same
  | cons argument arguments ih =>
    cases parameters with
    | nil => cases same
    | cons parameter parameters =>
      rw [checkArguments] at checked
      obtain ⟨⟨argument', actual⟩, argumentChecked, checked⟩ := Except.bind_eq_ok.mp checked
      obtain ⟨done, required, checked⟩ := Except.bind_eq_ok.mp checked
      obtain ⟨others, rest, checked⟩ := Except.bind_eq_ok.mp checked
      cases checked
      obtain ⟨types, tail, accepted⟩ := ih (Nat.succ.inj same) rest
      exact ⟨actual :: types, ⟨argumentChecked, tail⟩,
        .cons (Ty.accepts_of_require required) accepted⟩

/-- All elements are accepted by the type that the list ends up with. -/
theorem checkAll_of_checkElements {declared : Option Ty} {elements elements' : List Expr}
    {elementType : Option Ty}
    (checked : checkElements names declared elements = .ok (elements', elementType)) :
    ∃ types, CheckAll names elements elements' types ∧
      (∀ type, declared = some type → elementType = some type) ∧
      (∀ type, elementType = some type → ∀ actual ∈ types, type.accepts actual) := by
  induction elements generalizing declared elements' elementType with
  | nil =>
    cases checked
    exact ⟨[], trivial, fun _ given => given, fun _ _ _ member => by cases member⟩
  | cons first rest ih =>
    rw [checkElements] at checked
    obtain ⟨⟨first', actual⟩, firstChecked, checked⟩ := Except.bind_eq_ok.mp checked
    -- The first element fixes the type when none is declared, and then accepts itself.
    obtain ⟨others, rfl, restChecked, firstAccepted⟩ :
        ∃ others, elements' = first' :: others ∧
          checkElements names (declared.getD actual) rest = .ok (others, elementType) ∧
          (declared.getD actual).accepts actual := by
      cases declared with
      | none =>
        obtain ⟨⟨others, found⟩, restChecked, checked⟩ := Except.bind_eq_ok.mp checked
        cases checked
        exact ⟨others, rfl, restChecked, Ty.accepts_refl actual⟩
      | some given =>
        obtain ⟨done, required, checked⟩ := Except.bind_eq_ok.mp checked
        obtain ⟨⟨others, found⟩, restChecked, checked⟩ := Except.bind_eq_ok.mp checked
        cases checked
        exact ⟨others, rfl, restChecked, Ty.accepts_of_require required⟩
    obtain ⟨types, tail, kept, accepted⟩ := ih restChecked
    have fixed : elementType = some (declared.getD actual) := kept _ rfl
    refine ⟨actual :: types, ⟨firstChecked, tail⟩, ?_, ?_⟩
    · rintro type rfl
      exact fixed
    · intro type isType other member
      cases fixed.symm.trans isType
      rcases List.mem_cons.mp member with rfl | member
      · exact firstAccepted
      · exact accepted _ isType other member

end Expr

/-- What a declaration makes of its value. Without one the variable needs a type; a single value has
a type that the variable accepts; so have the elements of a list. -/
inductive Variable.Initial (names : Names) (binding : Variable) :
    Option Expr → Option Expr → Prop where
  | missing (single : binding.isList = false) : Initial names binding none none
  | single {value typed : Expr} {actual : Ty} (single : binding.isList = false)
      (checked : value.check names = .ok (typed, actual))
      (accepted : binding.type.accepts actual) : Initial names binding (some value) (some typed)
  | list {elements elements' : List Expr} {elementType type : Option Ty} {types : List Ty}
      (list : binding.isList = true) (checked : Expr.CheckAll names elements elements' types)
      (accepted : ∀ actual ∈ types, binding.type.accepts actual) :
      Initial names binding (some (.list elements elementType type))
        (some (.list elements' binding.type binding.type))

theorem Variable.initial_of_declare {names : Names} {name : String} {typeName : Option String}
    {mutable : Bool} {value value' : Option Expr} {binding : Variable}
    (declared : declare names name typeName mutable value = .ok (value', binding)) :
    Initial names binding value value' ∧
      binding = { name, emittedName := name, type := binding.type, mutable
                  isList := binding.isList } ∧
      (∀ spelt, typeName = some spelt → Ty.ofName? spelt = some binding.type) ∧
      (value = none → typeName ≠ none) := by
  unfold declare at declared
  obtain ⟨wanted, resolved, declared⟩ := Except.bind_eq_ok.mp declared
  have spelling := Ty.names_of_resolve resolved
  split at declared
  · next elements elementType type _ _ =>
    obtain ⟨⟨elements', found⟩, elementsChecked, declared⟩ := Except.bind_eq_ok.mp declared
    obtain ⟨types, checked, kept, accepted⟩ := Expr.checkAll_of_checkElements elementsChecked
    cases found with
    | none => cases declared
    | some found =>
      cases declared
      refine ⟨.list rfl checked (accepted found rfl), rfl, ?_, nofun⟩
      rintro spelt rfl
      cases wanted with
      | none => cases spelling
      | some wanted =>
        cases kept wanted rfl
        exact Option.some.inj spelling
  · next value wanted _ _ =>
    obtain ⟨⟨typed, actual⟩, valueChecked, declared⟩ := Except.bind_eq_ok.mp declared
    obtain ⟨done, required, declared⟩ := Except.bind_eq_ok.mp declared
    cases declared
    refine ⟨.single rfl valueChecked (Ty.accepts_of_require required), rfl, ?_, nofun⟩
    rintro spelt rfl
    exact Option.some.inj spelling
  · obtain ⟨⟨typed, actual⟩, valueChecked, declared⟩ := Except.bind_eq_ok.mp declared
    cases declared
    refine ⟨.single rfl valueChecked (Ty.accepts_refl actual), rfl, ?_, nofun⟩
    rintro spelt rfl
    cases spelling
  · cases declared
    refine ⟨.missing rfl, rfl, ?_, ?_⟩
    · rintro spelt rfl
      exact Option.some.inj spelling
    · rintro - rfl
      cases spelling
  · cases declared

end Primer
