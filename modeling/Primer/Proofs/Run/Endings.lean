import Primer.Proofs.Run.Resolution

/-! What calls yield.

Checking wants a return statement somewhere in a function of which a value is promised, not on every
path. Where the end of such a body is reached, the call yields `nil`, and what is returned from it
may be such a `nil` in turn; no other value of a wrong kind is ever yielded. Functions that return
on every path keep their promise.
-/

set_option autoImplicit false

namespace Primer

open Eval

/-- A type of which all values are of one kind, that of `nil` apart. -/
def Ty.Definite (type : Ty) : Prop :=
  type ≠ .any ∧ type ≠ .comparable ∧ type ≠ .nil

theorem Ty.kind_of_admits {type : Ty} {value : Value} (definite : type.Definite)
    (admitted : type.admits value) : value.kind = type.name := by
  have kind := Ty.admits_iff.mp admitted
  obtain ⟨single, plain, -⟩ := definite
  cases type with
  | any => exact absurd rfl single
  | comparable => exact absurd rfl plain
  | nil | boolean | integer | decimal | character | string => exact List.mem_singleton.mp kind

def Stmt.Valued : Stmt → Prop
  | .declaration _ _ none _ => False
  | _ => True

structure Program.Valued (typed : Program) : Prop where
  globals : ∀ global ∈ typed.globals, global.value ≠ none
  bodies : ∀ function ∈ typed.functions, Stmt.EveryIn (fun _ => True) Stmt.Valued function.body

/-- What a completed call yields, that of the main function included, is as its return type says. -/
structure Program.CallsYield (typed : Program) (console : Console) (good : Ty → Value → Prop) :
    Prop where
  calls : ∀ {place name arguments signature type machine value after},
    Reaches typed console place (.value (.call name arguments (some signature) type)) machine →
    (Expr.call name arguments (some signature) type).Yields machine value after →
    good signature.returnType value
  main : ∀ {fuel machine value after}, loadProgram fuel typed (.initial console) = .ok () machine →
    call fuel "main" [] machine = .ok value after → good .integer value

theorem Program.CallsYield.mono {typed : Program} {console : Console}
    {good better : Ty → Value → Prop}
    (yield : typed.CallsYield console better)
    (weaker : ∀ type value, better type value → good type value) :
    typed.CallsYield console good where
  calls reaches yields := weaker _ _ (yield.calls reaches yields)
  main loads called := weaker _ _ (yield.main loads called)

theorem Stmt.Valued.suits {statement : Stmt} (valued : statement.Valued) :
    statement.Suits .mixed := by
  cases statement with
  | declaration name typeName value binding =>
    cases value with
    | none => exact valued.elim
    | some value => trivial
  | expression | assignment | conditional | loop | switch | returns => trivial

section program

variable {program typed : Program} {loaded last : Checker}

theorem Program.Valued.suits (valued : typed.Valued)
    (returning : ∀ function ∈ typed.functions, function.Returning) : typed.Suits .mixed where
  globals global member :=
    { missing := fun none => absurd none (valued.globals global member)
      value := fun value _ => value.every_true.mono fun expr _ => expr.suits_of_mixedOrder rfl }
  bodies function member :=
    (valued.bodies function member).mono (fun expr _ => expr.suits_of_mixedOrder rfl)
      fun _ => Stmt.Valued.suits
  endings function member _ bound := (returning function member).ends bound

theorem Program.Passes.callsYield {discipline : Discipline}
    (passes : program.Passes typed loaded last)
    (proper : ∀ function ∈ program.functions, function.Proper) (suits : typed.Suits discipline)
    (console : Console) : typed.CallsYield console discipline.Admits where
  calls := by
    rintro place name arguments signature type machine value after reaches ⟨fuel, ran⟩
    obtain ⟨source, checker, setting, -, checks, every, serves, ⟨kinds, fits⟩, -⟩ :=
      reaches.known passes proper suits
    have calls := Callable.invoke_sound (serves.sound passes proper suits) fuel
    cases checks with
    | @value source _ _ checked =>
      obtain ⟨more, -, admitted⟩ := (Expr.evaluate_sound calls source checked every fits).of_ok ran
      cases Expr.typed_of_check checked with
      | call => exact admitted
  main := by
    intro fuel machine value after loads called
    obtain ⟨kinds, fits⟩ := (ensures_loadProgram passes proper suits fuel console).of_ok loads
    obtain ⟨more, -, admitted⟩ := (ensures_main passes proper suits fuel fits).of_ok called
    exact admitted

end program

section main

variable {tokens : List Token} {program typed : Program}

/-- Calls yield a value of their type or `nil`; if functions return on every path, the former. -/
theorem Program.calls_yield (parsed : Program.ofTokens tokens = .ok program)
    (checked : program.check = .ok typed) (valued : typed.Valued) (console : Console) :
    (typed.CallsYield console fun type value =>
      type.Definite → value.kind = type.name ∨ value = .nil) ∧
    ((∀ function ∈ typed.functions, function.Returning) →
      (typed.CallsYield console fun type value => type.Definite → value.kind = type.name) ∧
      ∀ fuel expected received after, runProgram fuel typed (.initial console) ≠
        .error (.error (.unexpectedKind expected received)) after) := by
  obtain ⟨loaded, last, passes⟩ := Program.passes_of_check checked
  have proper := Program.proper_of_ofTokens parsed
  constructor
  · apply (passes.callsYield proper (passes.suits_lenient proper) console).mono
    intro type value admitted definite
    exact admitted.imp (Ty.kind_of_admits definite) And.right
  · intro returning
    have suits := valued.suits returning
    refine ⟨(passes.callsYield proper suits console).mono ?_, ?_⟩
    · intro type value admitted definite
      rcases admitted with fits | ⟨stray, -⟩
      · exact Ty.kind_of_admits definite fits
      · cases stray
    · intro fuel expected received after ran
      cases (ensures_runProgram passes proper suits fuel console).of_error ran

end main

namespace Sample

def halfTokens : List Token :=
  Token.spelled
    [(.identifier, "fun"), (.identifier, "half"), (.operator, "("), (.identifier, "n"),
      (.operator, ":"), (.identifier, "Integer"), (.operator, ")"), (.operator, ":"),
      (.identifier, "Integer"), (.identifier, "do"),
      (.identifier, "if"), (.identifier, "n"), (.operator, ">"), (.integer, "1"),
      (.identifier, "do"), (.identifier, "return"), (.identifier, "n"), (.operator, "/"),
      (.integer, "2"), (.operator, ";"),
      (.identifier, "else"), (.identifier, "return"), (.integer, "0"), (.operator, ";"),
      (.identifier, "end"), (.identifier, "end"),
      (.identifier, "fun"), (.identifier, "main"), (.operator, "("), (.operator, ")"),
      (.identifier, "do"),
      (.identifier, "let"), (.identifier, "n"), (.operator, "="), (.identifier, "half"),
      (.operator, "("), (.integer, "5"), (.operator, ")"), (.operator, ";"),
      (.identifier, "return"), (.identifier, "n"), (.operator, ";"), (.identifier, "end")]

/-- The arguments are what checking fills in. -/
def half (half main : Option Signature) (n : Option Variable) (boolean integer : Option Ty) :
    Program where
  globals := []
  functions :=
    [{ name := "half", parameters := ["n"], parameterTypes := ["Integer"]
       returnTypeName := some "Integer", binding := half
       body :=
        [.conditional
          (.binary .greater (.named "n" n integer) (.literal (.integer 1) integer) boolean)
          [.returns
            (.binary .divide (.named "n" n integer) (.literal (.integer 2) integer) integer)]
          [.returns (.literal (.integer 0) integer)]] },
      { name := "main", parameters := [], parameterTypes := [], returnTypeName := none
        binding := main
        body :=
          [.declaration "n" none
            (some (.call "half" [.literal (.integer 5) integer] half integer)) n,
            .returns (.named "n" n integer)] }]

def halfTyped : Program :=
  half (some (.declared "half" [.integer] .integer)) (some (.declared "main" [] .integer))
    (some (.single "n" .integer true)) (some .boolean) (some .integer)

theorem parsed_half : Program.ofTokens halfTokens = .ok (half none none none none none) := by
  with_unfolding_all rfl

theorem checked_half : (half none none none none none).check = .ok halfTyped := rfl

theorem valued_half : halfTyped.Valued where
  globals := by
    intro global member
    cases member
  bodies := by
    intro function member
    simp only [halfTyped, half, List.mem_cons, List.not_mem_nil, or_false] at member
    rcases member with rfl | rfl <;>
      simp [Stmt.EveryIn, Stmt.Every, Expr.Every, Expr.EveryIn, Stmt.Valued]

theorem returning_half : ∀ function ∈ halfTyped.functions, function.Returning := by
  intro function member signature _ _ _
  simp only [halfTyped, half, List.mem_cons, List.not_mem_nil, or_false] at member
  rcases member with rfl | rfl <;> rfl

def halfCall : Expr :=
  .call "half" [.literal (.integer 5) (some .integer)] (some (.declared "half" [.integer] .integer))
    (some .integer)

theorem half_yields_integer :
    ∃ place machine after, Program.ofTokens halfTokens = .ok (half none none none none none) ∧
      (half none none none none none).check = .ok halfTyped ∧ halfTyped.Valued ∧
      (∀ function ∈ halfTyped.functions, function.Returning) ∧
      halfTyped.CallsYield {} (fun type value => type.Definite → value.kind = type.name) ∧
      Reaches halfTyped {} place (.value halfCall) machine ∧
      halfCall.Yields machine (.integer 2) after ∧
      (Value.integer 2).kind = Ty.integer.name := by
  have yield := ((Program.calls_yield parsed_half checked_half valued_half {}).2 returning_half).1
  have reaches := Reaches.turn (.turn (.main
    (rfl : Eval.loadProgram 1 halfTyped (.initial {}) = .ok () _)
    ⟨Chain.root, rfl, rfl, rfl, rfl⟩) .first) .declared
  refine ⟨_, _, _, parsed_half, checked_half, valued_half, returning_half, yield, reaches, ⟨2, rfl⟩,
    ?_⟩
  exact yield.calls reaches ⟨2, rfl⟩ ⟨by decide, by decide, by decide⟩

end Sample

/-! ### A function that ends without a return -/

namespace Sample

def endingTokens : List Token :=
  Token.spelled
    [(.identifier, "fun"), (.identifier, "f"), (.operator, "("), (.operator, ")"), (.operator, ":"),
      (.identifier, "Boolean"), (.identifier, "do"),
      (.identifier, "if"), (.identifier, "false"), (.identifier, "do"),
      (.identifier, "return"), (.identifier, "true"), (.operator, ";"), (.identifier, "end"),
      (.identifier, "end"),
      (.identifier, "fun"), (.identifier, "main"), (.operator, "("), (.operator, ")"),
      (.identifier, "do"),
      (.identifier, "switch"), (.identifier, "f"), (.operator, "("), (.operator, ")"),
      (.identifier, "case"), (.identifier, "true"), (.operator, ":"), (.identifier, "return"),
      (.integer, "1"), (.operator, ";"),
      (.identifier, "case"), (.identifier, "false"), (.operator, ":"), (.identifier, "return"),
      (.integer, "1"), (.operator, ";"),
      (.identifier, "default"), (.operator, ":"), (.identifier, "return"), (.integer, "0"),
      (.operator, ";"), (.identifier, "end"), (.identifier, "end")]

/-- The tree of a function that only returns in a branch that is never taken, and of one that tells
both Booleans from anything else. The arguments are what checking fills in. -/
def ending (f main : Option Signature) (boolean integer : Option Ty) : Program where
  globals := []
  functions :=
    [{ name := "f", parameters := [], parameterTypes := [], returnTypeName := some "Boolean"
       binding := f
       body :=
        [.conditional (.literal (.boolean false) boolean)
          [.returns (.literal (.boolean true) boolean)]
          []] },
      { name := "main", parameters := [], parameterTypes := [], returnTypeName := none
        binding := main
        body :=
          [.switch (.call "f" [] f boolean)
            [.matching (.literal (.boolean true) boolean)
              [.returns (.literal (.integer 1) integer)],
              .matching (.literal (.boolean false) boolean)
                [.returns (.literal (.integer 1) integer)],
              .otherwise [.returns (.literal (.integer 0) integer)]]] }]

def f : Signature := .declared "f" [] .boolean

def endingTyped : Program :=
  ending f (some (.declared "main" [] .integer)) (some .boolean) (some .integer)

theorem parsed_ending : Program.ofTokens endingTokens = .ok (ending none none none none) := by
  with_unfolding_all rfl

theorem checked_ending : (ending none none none none).check = .ok endingTyped := rfl

theorem valued_ending : endingTyped.Valued where
  globals := by
    intro global member
    cases member
  bodies := by
    intro function member
    simp only [endingTyped, ending, List.mem_cons, List.not_mem_nil, or_false] at member
    rcases member with rfl | rfl <;>
      simp [Stmt.EveryIn, Stmt.Every, Case.EveryIn, Expr.Every, Expr.EveryIn, Stmt.Valued]

/-- A return statement somewhere in a function is not enough for the kind of what it yields. -/
theorem ending_yields_nil :
    ¬ ∀ tokens program typed, Program.ofTokens tokens = .ok program → program.check = .ok typed →
      typed.Valued → ∀ console, typed.CallsYield console fun type value =>
        type.Definite → value.kind = type.name := by
  intro always
  have yield := always _ _ _ parsed_ending checked_ending valued_ending {}
  have reaches := Reaches.turn (.turn (.main
    (rfl : Eval.loadProgram 1 endingTyped (.initial {}) = .ok () _)
    ⟨Chain.root, rfl, rfl, rfl, rfl⟩) .first) .scrutinee
  have kind : Value.nil.kind = Ty.boolean.name :=
    yield.calls reaches ⟨2, rfl⟩ ⟨by decide, by decide, by decide⟩
  exact absurd kind (by decide)

end Sample

end Primer
