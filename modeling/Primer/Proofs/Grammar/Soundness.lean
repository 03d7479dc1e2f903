import Primer.Proofs.Grammar.Spelling

/-! Programs that the rules of the grammar accept are phrases of the grammar. -/

set_option autoImplicit false

namespace Primer.Parse

open Phrase

theorem takes_recognised : Takes expression Expr.Recognised :=
  takes_expression.mono fun _ _ regular spelling => (recognised_iff regular).mpr spelling

theorem takes_typeName : Takes typeAnnotation (Perhaps TypeName) := by
  refine Takes.accept (fun colon isColon => ?_) (takes_pure .none)
  exact Takes.identifier fun name isName => takes_pure (.some (.mk isColon isName))

theorem takes_initializer : Takes initializer (Perhaps Initial) := by
  refine Takes.accept (fun equals isEquals => ?_) (takes_pure .none)
  refine takes_recognised.bind fun value expr recognised => ?_
  exact takes_pure (by simpa using .some (.mk isEquals recognised))

section statements

variable {inner : Parse Stmt} {phrase : List Token → Stmt → Prop}

theorem takes_block (inside : Takes inner phrase) (ends : List String) :
    Takes (block inner ends) (Many phrase) := by
  refine takes_collect ?_
  refine looks_get.bind fun cursor => ?_
  have next : Takes (do return some (← inner)) (Perhaps phrase) := by
    refine inside.bind fun taken stmt spells => ?_
    exact takes_pure (by simpa using .some spells)
  cases ends.any cursor.isAt with
  | true => exact takes_pure .none
  | false =>
    cases cursor.current?.isNone with
    | true => exact (refuses_expected _).bind
    | false => exact next

theorem takes_declaration : Takes declaration Statement := by
  refine Takes.expect fun word isLet => ?_
  refine Takes.identifier fun name isName => ?_
  refine takes_typeName.bind fun typed typeName typing => ?_
  refine takes_initializer.bind fun initial value initializer => ?_
  refine Takes.expect fun semicolon isSemicolon => ?_
  exact takes_pure (.declaration isLet isName typing initializer isSemicolon)

theorem takes_conditional (inside : Takes inner Statement) :
    Takes (conditional inner) Statement := by
  refine Takes.expect fun word isIf => ?_
  refine takes_recognised.bind fun condition expr recognised => ?_
  refine Takes.expect fun opening isDo => ?_
  refine (takes_block inside _).bind fun body thenBody block => ?_
  have rest (other : List Token) (elseBody : Option (List Stmt))
      (alternative : Perhaps (Alternative Statement) other elseBody) :
      Takes (do
        discard (expect "end")
        return .conditional expr thenBody (elseBody.getD [])) fun taken stmt =>
        Statement (word :: (condition ++ opening :: (body ++ (other ++ taken)))) stmt := by
    refine Takes.expect fun closing isEnd => ?_
    exact takes_pure (.conditional isIf recognised isDo block alternative isEnd)
  refine Takes.accept (fun other isElse => ?_) (rest [] none .none)
  refine (takes_block inside _).bind fun body elseBody block => ?_
  exact rest (other :: body) (some elseBody) (.some (.mk isElse block))

theorem takes_loop (inside : Takes inner Statement) : Takes (loop inner) Statement := by
  refine Takes.expect fun word isWhile => ?_
  refine takes_recognised.bind fun condition expr recognised => ?_
  refine Takes.expect fun opening isDo => ?_
  refine (takes_block inside _).bind fun body stmts block => ?_
  refine Takes.expect fun closing isEnd => ?_
  exact takes_pure (.loop isWhile recognised isDo block isEnd)

theorem takes_matchingCase? (inside : Takes inner phrase) :
    Takes (matchingCase? inner) (Perhaps (Arm phrase)) := by
  refine Takes.accept (fun word isCase => ?_) (takes_pure .none)
  refine takes_recognised.bind fun value expr recognised => ?_
  refine Takes.expect fun colon isColon => ?_
  refine (takes_block inside _).bind fun body stmts block => ?_
  exact takes_pure (by simpa using .some (.mk isCase recognised isColon block))

theorem takes_switch (inside : Takes inner Statement) : Takes (switch inner) Statement := by
  refine Takes.expect fun word isSwitch => ?_
  refine takes_recognised.bind fun condition expr recognised => ?_
  refine (takes_collect (takes_matchingCase? inside)).bind fun arms cases matching => ?_
  refine Takes.expect fun default isDefault => ?_
  refine Takes.expect fun colon isColon => ?_
  refine (takes_block inside _).bind fun body stmts block => ?_
  refine Takes.expect fun closing isEnd => ?_
  exact takes_pure (.switch isSwitch recognised matching isDefault isColon block isEnd)

theorem takes_returns : Takes returns Statement := by
  refine Takes.expect fun word isReturn => ?_
  refine takes_recognised.bind fun value expr recognised => ?_
  refine Takes.expect fun semicolon isSemicolon => ?_
  exact takes_pure (.returns isReturn recognised isSemicolon)

theorem takes_simple : Takes simple Statement := by
  refine takes_recognised.bind fun target receiver receives => ?_
  refine Takes.accept (fun equals isEquals => ?_) ?_
  · refine takes_recognised.bind fun value expr recognised => ?_
    refine Takes.expect fun semicolon isSemicolon => ?_
    exact takes_pure (.assignment receives isEquals recognised isSemicolon)
  · refine Takes.expect fun semicolon isSemicolon => ?_
    exact takes_pure (.expression receives isSemicolon)

theorem takes_statement : Takes statement Statement := by
  refine takes_nested fun inner inside => ?_
  refine (looks_peek "let").bind fun isLet => ?_
  cases isLet with
  | true => exact takes_declaration
  | false =>
    refine (looks_peek "if").bind fun isIf => ?_
    cases isIf with
    | true => exact takes_conditional inside
    | false =>
      refine (looks_peek "while").bind fun isWhile => ?_
      cases isWhile with
      | true => exact takes_loop inside
      | false =>
        refine (looks_peek "switch").bind fun isSwitch => ?_
        cases isSwitch with
        | true => exact takes_switch inside
        | false =>
          refine (looks_peek "return").bind fun isReturn => ?_
          cases isReturn with
          | true => exact takes_returns
          | false => exact takes_simple

end statements

/-! ### Programs -/

/-- After `val` a value must be there. -/
theorem takes_afterMutability {mutable : Bool} {word : Token}
    (isWord : word.value = if mutable then "var" else "val") :
    Takes (afterMutability mutable) fun taken => Phrase.Global (word :: taken) := by
  refine Takes.identifier fun name isName => ?_
  refine takes_typeName.bind fun typed typeName typing => ?_
  refine takes_initializer.bind fun initial value initializer => ?_
  cases mutable with
  | true =>
    refine Takes.expect fun semicolon isSemicolon => ?_
    exact takes_pure (.var isWord isName typing initializer isSemicolon)
  | false =>
    cases initializer with
    | none => exact (refuses_fail (.missingValue name.value)).bind
    | some given =>
      refine Takes.expect fun semicolon isSemicolon => ?_
      exact takes_pure (.val isWord isName typing given isSemicolon)

theorem takes_global : Takes global Phrase.Global := by
  rw [global_eq]
  refine Takes.accept (fun word isVar => takes_afterMutability isVar) ?_
  exact Takes.expect fun word isVal => takes_afterMutability isVal

theorem takes_parameter : Takes parameter Parameter := by
  refine Takes.identifier fun name isName => ?_
  refine Takes.expect fun colon isColon => ?_
  exact Takes.identifier fun type isType => takes_pure (.mk isName isColon isType)

theorem takes_function : Takes function Phrase.Function := by
  refine Takes.expect fun word isFun => ?_
  refine Takes.identifier fun name isName => ?_
  refine Takes.expect fun opening opens => ?_
  refine (takes_separated takes_parameter ")").bind fun inside parameters enclosed => ?_
  refine takes_typeName.bind fun typed returnTypeName typing => ?_
  refine Takes.expect fun start isDo => ?_
  refine (takes_block takes_statement _).bind fun body stmts block => ?_
  refine Takes.expect fun closing isEnd => ?_
  exact takes_pure (.mk isFun isName opens enclosed typing isDo block isEnd)

theorem takes_global? : Takes global? (Perhaps Phrase.Global) := by
  refine (looks_peek "val").bind fun isVal => (looks_peek "var").bind fun isVar => ?_
  cases isVal || isVar with
  | true =>
    refine takes_global.bind fun taken global spells => ?_
    exact takes_pure (by simpa using .some spells)
  | false => exact takes_pure .none

theorem takes_function? : Takes function? (Perhaps Phrase.Function) := by
  refine (looks_peek "fun").bind fun isFun => ?_
  cases isFun with
  | true =>
    refine takes_function.bind fun taken function spells => ?_
    exact takes_pure (by simpa using .some spells)
  | false => exact takes_pure .none

theorem takes_program : Takes program Phrase.Program := by
  refine (takes_collect takes_global?).bind fun first globals allGlobals => ?_
  refine (takes_collect takes_function?).bind fun second functions allFunctions => ?_
  refine looks_current?.bind fun found => ?_
  cases found with
  | none => exact takes_pure (by simpa using .mk allGlobals allFunctions)
  | some token => exact (refuses_throw _).takes

end Primer.Parse
