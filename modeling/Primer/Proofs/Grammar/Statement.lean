import Primer.Proofs.Grammar.Expression

/-! Statements and programs that the grammar can spell.

What every form of statement hands on from its parts holds of every statement that is read. A
program consists of such statements, with a type for every parameter and nothing bound yet.
-/

set_option autoImplicit false

namespace Primer

namespace Parse

abbrev Yields {α : Type} (rule : Parse α) (good : α → Prop) : Prop :=
  Ensures (fun _ => True) rule good

variable {onExpr : Expr → Prop} {good : Stmt → Prop}

def Arm (onExpr : Expr → Prop) (good : Stmt → Prop) : Case → Prop
  | .matching value body => onExpr value ∧ ∀ statement ∈ body, good statement
  | .otherwise body => ∀ statement ∈ body, good statement

/-- A property of statements that the forms of the grammar hand on from their parts. -/
structure Assembles (onExpr : Expr → Prop) (good : Stmt → Prop) : Prop where
  declaration : ∀ {name typeName value}, (∀ given, value = some given → onExpr given) →
    good (.declaration name typeName value none)
  conditional : ∀ {condition thenBody elseBody}, onExpr condition →
    (∀ statement ∈ thenBody, good statement) → (∀ statement ∈ elseBody, good statement) →
    good (.conditional condition thenBody elseBody)
  loop : ∀ {condition body}, onExpr condition → (∀ statement ∈ body, good statement) →
    good (.loop condition body)
  switch : ∀ {condition cases body}, onExpr condition →
    (∀ arm ∈ cases ++ [.otherwise body], Arm onExpr good arm) →
    good (.switch condition (cases ++ [.otherwise body]))
  returns : ∀ {value}, onExpr value → good (.returns value)
  assignment : ∀ {receiver value}, onExpr receiver → onExpr value →
    good (.assignment receiver value)
  expression : ∀ {value}, onExpr value → good (.expression value)

structure FreshGlobal (onExpr : Expr → Prop) (global : Global) : Prop where
  unbound : global.binding = none
  value : ∀ given, global.value = some given → onExpr given

structure FreshFunction (good : Stmt → Prop) (function : Function) : Prop where
  unbound : function.binding = none
  parameters : function.parameters.length = function.parameterTypes.length
  body : ∀ statement ∈ function.body, good statement

section rules

theorem yields_identifier : Yields identifier fun _ => True :=
  ensures_identifier fun _ _ _ => trivial

variable {statement : Parse Stmt}

theorem yields_block (inside : Yields statement good) (ends : List String) :
    Yields (block statement ends) fun body => ∀ statement ∈ body, good statement := by
  have items : Yields (do
      let cursor ← get
      if ends.any cursor.isAt then return none
      if cursor.current?.isNone then expected (ends.getLast?.getD "end")
      return some (← statement)) fun found => ∀ item, found = some item → good item := by
    refine ensures_get.bind fun cursor _ => ?_
    have one : Yields (do return some (← statement) : Parse (Option Stmt))
        fun found => ∀ item, found = some item → good item := by
      refine inside.bind fun next holds => ensures_pure fun item isItem => ?_
      cases isItem
      exact holds
    cases ends.any cursor.isAt with
    | true => exact ensures_pure nofun
    | false =>
      cases cursor.current?.isNone with
      | true =>
        have refused : Yields (expected (ends.getLast?.getD "end") : Parse Unit) fun _ => True :=
          ensures_expected _
        exact refused.bind fun _ _ => one
      | false => exact one
  exact ensures_collect items

theorem yields_typeAnnotation : Yields typeAnnotation fun _ => True := by
  refine (ensures_accept ":").bind fun given _ => ?_
  cases given with
  | true => exact yields_identifier.bind fun _ _ => ensures_pure trivial
  | false => exact ensures_pure trivial

theorem yields_initializer (exprs : Yields expression onExpr) :
    Yields initializer fun value => ∀ given, value = some given → onExpr given := by
  refine (ensures_accept "=").bind fun given _ => ?_
  cases given with
  | true =>
    refine exprs.bind fun value holds => ensures_pure fun given isGiven => ?_
    cases isGiven
    exact holds
  | false => exact ensures_pure nofun

theorem yields_word (text : String) : Yields (discard (expect text)) fun _ => True :=
  ensures_discard (ensures_expect text)

theorem yields_declaration (assembles : Assembles onExpr good)
    (exprs : Yields expression onExpr) : Yields declaration good := by
  refine (yields_word "let").bind fun _ _ => ?_
  refine yields_identifier.bind fun _ _ => ?_
  refine yields_typeAnnotation.bind fun _ _ => ?_
  refine (yields_initializer exprs).bind fun _ value => ?_
  refine (yields_word ";").bind fun _ _ => ?_
  exact ensures_pure (assembles.declaration value)

theorem yields_conditional (assembles : Assembles onExpr good) (exprs : Yields expression onExpr)
    (inside : Yields statement good) : Yields (conditional statement) good := by
  refine (yields_word "if").bind fun _ _ => ?_
  refine exprs.bind fun condition test => ?_
  refine (yields_word "do").bind fun _ _ => ?_
  refine (yields_block inside _).bind fun thenBody thenGood => ?_
  refine (ensures_accept "else").bind fun given _ => ?_
  cases given with
  | true =>
    refine (yields_block inside _).bind fun elseBody elseGood => ?_
    refine (yields_word "end").bind fun _ _ => ?_
    exact ensures_pure (assembles.conditional test thenGood elseGood)
  | false =>
    refine (yields_word "end").bind fun _ _ => ?_
    exact ensures_pure (assembles.conditional test thenGood nofun)

theorem yields_loop (assembles : Assembles onExpr good) (exprs : Yields expression onExpr)
    (inside : Yields statement good) : Yields (loop statement) good := by
  refine (yields_word "while").bind fun _ _ => ?_
  refine exprs.bind fun condition test => ?_
  refine (yields_word "do").bind fun _ _ => ?_
  refine (yields_block inside _).bind fun body bodyGood => ?_
  refine (yields_word "end").bind fun _ _ => ?_
  exact ensures_pure (assembles.loop test bodyGood)

theorem yields_matchingCase? (exprs : Yields expression onExpr)
    (inside : Yields statement good) :
    Yields (matchingCase? statement) fun found => ∀ arm, found = some arm →
      Arm onExpr good arm := by
  refine (ensures_accept "case").bind fun given _ => ?_
  cases given with
  | true =>
    refine exprs.bind fun value valueGood => ?_
    refine (yields_word ":").bind fun _ _ => ?_
    refine (yields_block inside _).bind fun body bodyGood => ?_
    refine ensures_pure fun arm isArm => ?_
    cases isArm
    exact ⟨valueGood, bodyGood⟩
  | false => exact ensures_pure nofun

/-- The default case is put behind all others. -/
theorem yields_switch (assembles : Assembles onExpr good) (exprs : Yields expression onExpr)
    (inside : Yields statement good) : Yields (switch statement) good := by
  refine (yields_word "switch").bind fun _ _ => ?_
  refine exprs.bind fun condition test => ?_
  refine (ensures_collect (yields_matchingCase? exprs inside)).bind fun cases all => ?_
  refine (yields_word "default").bind fun _ _ => ?_
  refine (yields_word ":").bind fun _ _ => ?_
  refine (yields_block inside _).bind fun body bodyGood => ?_
  refine (yields_word "end").bind fun _ _ => ?_
  refine ensures_pure (assembles.switch test fun arm member => ?_)
  rcases List.mem_append.mp member with early | last
  · exact all arm early
  · rw [List.mem_singleton.mp last]
    exact bodyGood

theorem yields_returns (assembles : Assembles onExpr good) (exprs : Yields expression onExpr) :
    Yields returns good := by
  refine (yields_word "return").bind fun _ _ => ?_
  refine exprs.bind fun value holds => ?_
  refine (yields_word ";").bind fun _ _ => ?_
  exact ensures_pure (assembles.returns holds)

theorem yields_simple (assembles : Assembles onExpr good) (exprs : Yields expression onExpr) :
    Yields simple good := by
  refine exprs.bind fun receiver receives => ?_
  refine (ensures_accept "=").bind fun assigned _ => ?_
  cases assigned with
  | true =>
    refine exprs.bind fun value holds => ?_
    refine (yields_word ";").bind fun _ _ => ?_
    exact ensures_pure (assembles.assignment receives holds)
  | false =>
    refine (yields_word ";").bind fun _ _ => ?_
    exact ensures_pure (assembles.expression receives)

theorem yields_statement (assembles : Assembles onExpr good) (exprs : Yields expression onExpr) :
    Yields Parse.statement good := by
  refine ensures_nested fun inner inside => ?_
  refine (ensures_peek "let").bind fun isLet _ => ?_
  cases isLet with
  | true => exact yields_declaration assembles exprs
  | false =>
    refine (ensures_peek "if").bind fun isIf _ => ?_
    cases isIf with
    | true => exact yields_conditional assembles exprs inside
    | false =>
      refine (ensures_peek "while").bind fun isWhile _ => ?_
      cases isWhile with
      | true => exact yields_loop assembles exprs inside
      | false =>
        refine (ensures_peek "switch").bind fun isSwitch _ => ?_
        cases isSwitch with
        | true => exact yields_switch assembles exprs inside
        | false =>
          refine (ensures_peek "return").bind fun isReturn _ => ?_
          cases isReturn with
          | true => exact yields_returns assembles exprs
          | false => exact yields_simple assembles exprs

theorem yields_parameter : Yields parameter fun _ => True := by
  refine yields_identifier.bind fun _ _ => ?_
  refine (yields_word ":").bind fun _ _ => ?_
  exact yields_identifier.bind fun _ _ => ensures_pure trivial

theorem yields_function (assembles : Assembles onExpr good) (exprs : Yields expression onExpr) :
    Yields function (FreshFunction good) := by
  refine (yields_word "fun").bind fun _ _ => ?_
  refine yields_identifier.bind fun name _ => ?_
  refine (yields_word "(").bind fun _ _ => ?_
  refine (ensures_separated yields_parameter ")").bind fun parameters _ => ?_
  refine yields_typeAnnotation.bind fun _ _ => ?_
  refine (yields_word "do").bind fun _ _ => ?_
  refine (yields_block (yields_statement assembles exprs) _).bind fun body holds => ?_
  refine (yields_word "end").bind fun _ _ => ?_
  exact ensures_pure ⟨rfl, by simp, holds⟩

theorem yields_afterMutability (exprs : Yields expression onExpr) (mutable : Bool) :
    Yields (afterMutability mutable) (FreshGlobal onExpr) := by
  refine yields_identifier.bind fun name _ => ?_
  refine yields_typeAnnotation.bind fun typeName _ => ?_
  refine (yields_initializer exprs).bind fun value holds => ?_
  have done : Yields (pure { name, typeName, mutable, value, binding := none } : Parse Global)
      (FreshGlobal onExpr) := ensures_pure ⟨rfl, holds⟩
  cases !mutable && value.isNone with
  | true =>
    have refused : Yields (fail (.missingValue name) : Parse Unit) fun _ => True :=
      ensures_fail _
    exact refused.bind fun _ _ => (yields_word ";").bind fun _ _ => done
  | false => exact (yields_word ";").bind fun _ _ => done

theorem yields_global (exprs : Yields expression onExpr) :
    Yields global (FreshGlobal onExpr) := by
  rw [global_eq]
  refine (ensures_accept "var").bind fun mutable _ => ?_
  cases mutable with
  | true => exact yields_afterMutability exprs true
  | false => exact (yields_word "val").bind fun _ _ => yields_afterMutability exprs false

theorem yields_program (assembles : Assembles onExpr good) (exprs : Yields expression onExpr) :
    Yields program fun program => (∀ global ∈ program.globals, FreshGlobal onExpr global) ∧
      ∀ function ∈ program.functions, FreshFunction good function := by
  have globalItem : Yields global? fun found => ∀ global, found = some global →
      FreshGlobal onExpr global := by
    refine (ensures_peek "val").bind fun isVal _ => ?_
    refine (ensures_peek "var").bind fun isVar _ => ?_
    cases isVal || isVar with
    | true =>
      refine (yields_global exprs).bind fun global fresh => ensures_pure fun other isOther => ?_
      cases isOther
      exact fresh
    | false => exact ensures_pure nofun
  have functionItem : Yields function? fun found => ∀ function, found = some function →
      FreshFunction good function := by
    refine (ensures_peek "fun").bind fun isFun _ => ?_
    cases isFun with
    | true =>
      refine (yields_function assembles exprs).bind fun function fresh =>
        ensures_pure fun other isOther => ?_
      cases isOther
      exact fresh
    | false => exact ensures_pure nofun
  refine (ensures_collect globalItem).bind fun globals freshGlobals => ?_
  refine (ensures_collect functionItem).bind fun functions freshFunctions => ?_
  refine ensures_current?.bind fun found _ => ?_
  cases found with
  | none => exact ensures_pure ⟨freshGlobals, freshFunctions⟩
  | some token => exact ensures_throw _

end rules

/-- A program that was parsed consists of what the rules read. -/
theorem fresh_of_ofTokens (assembles : Assembles onExpr good) (exprs : Yields expression onExpr)
    {tokens : List Token} {program : Program} (parsed : Program.ofTokens tokens = .ok program) :
    (∀ global ∈ program.globals, FreshGlobal onExpr global) ∧
      ∀ function ∈ program.functions, FreshFunction good function := by
  obtain ⟨last, ran⟩ := Program.ofTokens_eq_ok.mp parsed
  exact (yields_program assembles exprs _ (fun _ _ => trivial) _ _ ran).2

end Parse

end Primer
