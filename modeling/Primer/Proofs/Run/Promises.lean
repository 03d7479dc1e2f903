import Primer.Proofs.Grammar.Proper
import Primer.Proofs.Run.Reached

/-! Types keep their promises.

In a program that leaves no variable and no function without a value, and that never asks for an
order between operands of unknown kinds, every expression yields values of the kinds that its type
stands for. Nothing but the numbers of a run, and the console, can then stop it.
-/

set_option autoImplicit false

namespace Primer

/-- The kinds of values that a type takes. Only lists hold sequences. -/
def Ty.kinds : Ty → List String
  | .any => ["Nil", "Boolean", "Integer", "Decimal", "Character", "String"]
  | .comparable => ["Integer", "Decimal", "Character", "String"]
  | type => [type.name]

theorem Ty.admits_iff {type : Ty} {value : Value} :
    type.admits value ↔ value.kind ∈ type.kinds := by
  cases type <;> cases value <;>
    simp [admits, Value.type?, accepts, isComparable, kinds, name, Value.kind]

/-- A variable that gets no value is declared `Any` or `Nil`. -/
def Stmt.Settled : Stmt → Prop
  | .declaration _ typeName none _ => typeName = some "Any" ∨ typeName = some "Nil"
  | _ => True

/-- No order is asked for between operands that are only known to be comparable. -/
def Expr.Ordered : Expr → Prop
  | .binary operator left right _ => operator = .less ∨ operator = .greater →
      left.type? ≠ some .comparable ∧ right.type? ≠ some .comparable
  | _ => True

/-- A function of which a value of some type is promised returns on every path. -/
def Function.Returning (function : Function) : Prop :=
  ∀ signature, function.binding = some signature → signature.returnType ≠ .any →
    signature.returnType ≠ .nil → Stmt.allPathsReturn function.body

/-- A typed program that neither leaves a promise open nor compares what it cannot. -/
structure Program.Guarded (typed : Program) : Prop where
  globals : ∀ global ∈ typed.globals, global.value = none →
    global.typeName = some "Any" ∨ global.typeName = some "Nil"
  nodes : typed.Every Expr.Ordered Stmt.Settled
  returning : ∀ function ∈ typed.functions, function.Returning

/-- The type written into the node takes the kind of the value; the type of the elements of a list,
the kinds of all items. -/
def Expr.Promises : Expr → Value → Prop
  | .list _ elementType _, value => ∃ type items, elementType = some type ∧
      value = .sequence items ∧ ∀ item ∈ items, item.kind ∈ type.kinds
  | expr, value => ∃ type, expr.type? = some type ∧ value.kind ∈ type.kinds

/-- Errors that the numbers of a run or the console bring about. -/
def RunError.Circumstantial : RunError → Prop
  | .divisionByZero | .indexOutOfRange _ _ | .negativeExponent _ | .exponentTooLarge _
  | .exitCodeOutOfRange _ | .output _ => True
  | .unknownVariable _ | .unknownFunction _ _ | .badOperands _ _ _ | .unexpectedKind _ _
  | .notASequence _ | .badReceiver | .argumentCount _ _ _ => False

theorem Expr.Ordered.suits {expr : Expr} (ordered : expr.Ordered) : expr.Suits .exact := by
  cases expr with
  | binary operator left right type =>
    intro leftType rightType leftTyped rightTyped
    refine .inr fun comparing => ?_
    obtain ⟨leftKnown, rightKnown⟩ := ordered comparing
    rw [leftTyped] at leftKnown
    rw [rightTyped] at rightKnown
    exact ⟨fun same => leftKnown (congrArg some same), fun same => rightKnown (congrArg some same)⟩
  | literal | group | named | element | call | list => trivial

theorem Stmt.Settled.suits {statement : Stmt} (settled : statement.Settled) :
    statement.Suits .exact := by
  cases statement with
  | declaration name typeName value binding =>
    cases value with
    | none => exact .inr settled
    | some value => trivial
  | expression | assignment | conditional | loop | switch | returns => trivial

theorem Function.Returning.ends {discipline : Discipline} {function : Function}
    (returning : function.Returning) {signature : Signature}
    (bound : function.binding = some signature) :
    discipline.Admits signature.returnType .nil ∨ Stmt.allPathsReturn function.body := by
  cases returns : signature.returnType with
  | any | nil => exact .inl (.inl rfl)
  | boolean | integer | decimal | character | string | comparable =>
    exact .inr (returning signature bound (by rw [returns]; decide) (by rw [returns]; decide))

theorem Program.Guarded.suits {typed : Program} (guarded : typed.Guarded) :
    typed.Suits .exact where
  globals global member :=
    { missing := fun none => .inr (guarded.globals global member none)
      value := fun value given =>
        (guarded.nodes.globals global member value given).mono fun _ => Expr.Ordered.suits }
  bodies function member :=
    Stmt.EveryIn.mono (fun _ => Expr.Ordered.suits) (fun _ => Stmt.Settled.suits) function.body
      (guarded.nodes.functions function member)
  endings function member _ bound := (guarded.returning function member).ends bound

theorem Discipline.kind_of_admits {type : Ty} {value : Value}
    (admitted : Discipline.exact.Admits type value) : value.kind ∈ type.kinds := by
  rcases admitted with fits | ⟨stray, -⟩
  · exact Ty.admits_iff.mp fits
  · cases stray

section program

variable {tokens : List Token} {program typed : Program}

/-- An expression that a run comes to yields what its node promises, and only circumstances stop
the run. -/
theorem Program.keeps_promises (parsed : Program.ofTokens tokens = .ok program)
    (checked : program.check = .ok typed) (guarded : typed.Guarded) (console : Console) :
    (∀ place expr machine value after, Reaches typed console place (.value expr) machine →
      expr.Yields machine value after → expr.Promises value) ∧
    ∀ fuel error after,
      Eval.runProgram fuel typed (.initial console) = .error (.error error) after →
      error.Circumstantial := by
  obtain ⟨loaded, last, passes⟩ := Program.passes_of_check checked
  have proper := Program.proper_of_ofTokens parsed
  have suits := guarded.suits
  constructor
  · rintro place expr machine value after reaches ⟨fuel, ran⟩
    obtain ⟨source, checker, setting, -, checks, every, serves, ⟨kinds, fits⟩, -⟩ :=
      reaches.known passes proper suits
    have calls := Callable.invoke_sound (serves.sound passes proper suits) fuel
    cases checks with
    | @value source typed type checked =>
      obtain ⟨more, -, admitted⟩ := (Expr.evaluate_sound calls source checked every fits).of_ok ran
      have kind := Discipline.kind_of_admits admitted
      have written := Expr.type?_of_check checked
      cases Expr.typed_of_check checked <;> exact ⟨_, written, kind⟩
    | @list elements elements' elementType written types type checked accepted =>
      obtain ⟨items, middle, itemsRan, done⟩ := EStateM.bind_eq_ok.mp ran
      cases done
      obtain ⟨more, -, admitted⟩ :=
        (Expr.evaluateAll_sound calls elements checked every.2 fits).of_ok itemsRan
      refine ⟨type, items, rfl, rfl, fun item member => Discipline.kind_of_admits ?_⟩
      exact Discipline.admits_items_of_accepts accepted admitted item member
  · intro fuel error after ran
    have tolerated := (Eval.ensures_runProgram passes proper suits fuel console).of_error ran
    cases error with
    | badOperands operator left right => exact tolerated.elim nofun nofun
    | unexpectedKind expected received => cases tolerated
    | _ => exact tolerated

end program

/-! ### A program -/

def Token.spelled (row : List (Token.Kind × String)) : List Token :=
  row.map fun (kind, value) => { kind, value, start := 0, stop := 0 }

namespace Sample

/-- A list, a function that compares its parameter with an element of it, and a variable that gets
no value. -/
def tokens : List Token :=
  Token.spelled
    [(.identifier, "val"), (.identifier, "limits"), (.operator, ":"), (.identifier, "Integer"),
      (.operator, "="), (.operator, "["), (.integer, "3"), (.operator, ","), (.integer, "5"),
      (.operator, "]"), (.operator, ";"),
      (.identifier, "fun"), (.identifier, "pick"), (.operator, "("), (.identifier, "n"),
      (.operator, ":"), (.identifier, "Integer"), (.operator, ")"), (.operator, ":"),
      (.identifier, "Integer"), (.identifier, "do"),
      (.identifier, "if"), (.identifier, "n"), (.operator, "<"), (.identifier, "limits"),
      (.operator, "["), (.integer, "0"), (.operator, "]"), (.identifier, "do"),
      (.identifier, "return"), (.identifier, "n"), (.operator, ";"),
      (.identifier, "else"), (.identifier, "return"), (.identifier, "limits"), (.operator, "["),
      (.integer, "1"), (.operator, "]"), (.operator, ";"), (.identifier, "end"),
      (.identifier, "end"),
      (.identifier, "fun"), (.identifier, "main"), (.operator, "("), (.operator, ")"),
      (.identifier, "do"),
      (.identifier, "let"), (.identifier, "unset"), (.operator, ":"), (.identifier, "Any"),
      (.operator, ";"),
      (.identifier, "print"), (.operator, "("), (.identifier, "unset"), (.operator, ")"),
      (.operator, ";"),
      (.identifier, "return"), (.identifier, "pick"), (.operator, "("), (.integer, "4"),
      (.operator, ")"), (.operator, ";"), (.identifier, "end")]

def source : Program where
  globals :=
    [{ name := "limits", typeName := some "Integer", mutable := false, binding := none
       value := some (.list [.literal (.integer 3) none, .literal (.integer 5) none] none none) }]
  functions :=
    [{ name := "pick", parameters := ["n"], parameterTypes := ["Integer"]
       returnTypeName := some "Integer", binding := none
       body :=
        [.conditional
          (.binary .less (.named "n" none none)
            (.element "limits" (.literal (.integer 0) none) none none) none)
          [.returns (.named "n" none none)]
          [.returns (.element "limits" (.literal (.integer 1) none) none none)]] },
      { name := "main", parameters := [], parameterTypes := [], returnTypeName := none
        binding := none
        body :=
          [.declaration "unset" (some "Any") none none,
            .expression (.call "print" [.named "unset" none none] none none),
            .returns (.call "pick" [.literal (.integer 4) none] none none)] }]

def limits : Variable := .list "limits" .integer false

def parameter : Variable := .single "n" .integer true

def unset : Variable := .single "unset" .any true

def pick : Signature := .declared "pick" [.integer] .integer

def element (index : Int) : Expr :=
  .element "limits" (.literal (.integer index) (some .integer)) (some limits) (some .integer)

def call : Expr :=
  .call "pick" [.literal (.integer 4) (some .integer)] (some pick) (some .integer)

def typed : Program where
  globals :=
    [{ name := "limits", typeName := some "Integer", mutable := false, binding := some limits
       value := some (.list
        [.literal (.integer 3) (some .integer), .literal (.integer 5) (some .integer)]
        (some .integer) (some .integer)) }]
  functions :=
    [{ name := "pick", parameters := ["n"], parameterTypes := ["Integer"]
       returnTypeName := some "Integer", binding := some pick
       body :=
        [.conditional
          (.binary .less (.named "n" (some parameter) (some .integer)) (element 0) (some .boolean))
          [.returns (.named "n" (some parameter) (some .integer))]
          [.returns (element 1)]] },
      { name := "main", parameters := [], parameterTypes := [], returnTypeName := none
        binding := some (.declared "main" [] .integer)
        body :=
          [.declaration "unset" (some "Any") none (some unset),
            .expression (.call "print" [.named "unset" (some unset) (some .any)] (some .print)
              (some .nil)),
            .returns call] }]

theorem parsed : Program.ofTokens tokens = .ok source := by with_unfolding_all rfl

theorem checked : source.check = .ok typed := rfl

theorem guarded : typed.Guarded where
  globals := by
    intro global member none
    cases List.mem_singleton.mp member
    cases none
  nodes :=
    { globals := by
        intro global member value given
        cases List.mem_singleton.mp member
        cases given
        simp [Expr.Every, Expr.EveryIn, Expr.Ordered]
      functions := by
        intro function member
        simp only [typed, List.mem_cons, List.not_mem_nil, or_false] at member
        rcases member with rfl | rfl <;>
          simp [Stmt.EveryIn, Stmt.Every, Expr.Every, Expr.EveryIn, Expr.Ordered, Stmt.Settled,
            element, call, Expr.type?] }
  returning := by
    intro function member signature bound _ _
    simp only [typed, List.mem_cons, List.not_mem_nil, or_false] at member
    rcases member with rfl | rfl <;> rfl

end Sample

/-- The call of `pick` is come to and yields an integer. -/
theorem Sample.pick_keeps_promise :
    ∃ place machine after, Program.ofTokens Sample.tokens = .ok Sample.source ∧
      Sample.source.check = .ok Sample.typed ∧ Sample.typed.Guarded ∧
      Reaches Sample.typed {} place (.value Sample.call) machine ∧
      Sample.call.Yields machine (.integer 5) after ∧ Sample.call.Promises (.integer 5) := by
  have reaches := Reaches.turn (.turn (.turn (.turn (.main
    (rfl : Eval.loadProgram 1 Sample.typed (.initial {}) = .ok () _)
    ⟨Chain.root, rfl, rfl, rfl, rfl⟩)
    (.next ⟨1, rfl⟩)) (.next ⟨1, rfl⟩)) .first) .returned
  refine ⟨_, _, _, Sample.parsed, Sample.checked, Sample.guarded, reaches, ⟨2, rfl⟩, ?_⟩
  exact (Program.keeps_promises Sample.parsed Sample.checked Sample.guarded {}).1 _ _ _ _ _ reaches
    ⟨2, rfl⟩

end Primer
