import Primer.Proofs.Grammar.Soundness

/-! The rules of the grammar accept every phrase.

Statements end with a token of their own, so nothing has to be known about what follows them. A
block has to stand in front of one of the words that end it.
-/

set_option autoImplicit false

namespace Primer.Parse

open Phrase Cursor

variable {taken rest : List Token} {word : String}

theorem opens_recognised : Opens Expr.Recognised delimiters :=
  fun taken expr recognised regular =>
    opens_spelling taken expr ((recognised_iff regular).mp recognised) regular

theorem reads_recognised {expr : Expr} (recognised : Expr.Recognised taken expr)
    (leading : leads rest = some word) (listed : word ∈ delimiters) :
    Reads expression taken expr rest := by
  refine .of_regular fun regular => ?_
  refine reads_expression ((recognised_iff fun token member => ?_).mp recognised)
    (quiet_of_leads leading listed)
  exact regular token (List.mem_append_left _ member)

theorem Reads.until {β : Type} {next : Expr → Parse β} {front back : List Token} {token : Token}
    {expr : Expr} {result : β} (recognised : Expr.Recognised front expr)
    (isWord : token.value = word) (listed : word ∈ delimiters)
    (second : Reads (next expr) (token :: back) result rest) :
    Reads (expression >>= next) (front ++ token :: back) result rest :=
  have leading : leads (token :: back ++ rest) = some word := congrArg some isWord
  (reads_recognised recognised leading listed).bind second

theorem reads_typeName {typeName : Option String}
    (typing : Perhaps TypeName taken typeName)
    (other : leads rest ≠ some ":") : Reads typeAnnotation taken typeName rest := by
  cases typing with
  | none => exact .pass other reads_pure
  | some given =>
    obtain ⟨isColon, isName⟩ := given
    exact .accept isColon (.identifier isName reads_pure)

theorem reads_initializer {value : Option Expr} (given : Perhaps Initial taken value)
    (leading : leads rest = some ";") : Reads initializer taken value rest := by
  cases given with
  | none => exact .pass (by simp [leading]) reads_pure
  | some initial =>
    obtain ⟨isEquals, recognised⟩ := initial
    exact .accept isEquals ((reads_recognised recognised leading (by decide)).finish reads_pure)

theorem Reads.declared {β : Type} {next : Option String → Option Expr → Parse β}
    {typed initial : List Token} {typeName : Option String} {value : Option Expr}
    {semicolon : Token} {result : β} (typing : Perhaps TypeName typed typeName)
    (initializer : Perhaps Initial initial value) (isSemicolon : semicolon.value = ";")
    (second : Reads (next typeName value) [semicolon] result rest) :
    Reads (do next (← typeAnnotation) (← Parse.initializer)) (typed ++ (initial ++ [semicolon]))
      result rest := by
  have ends : leads ([semicolon] ++ rest) = some ";" := congrArg some isSemicolon
  refine (reads_typeName typing ?_).bind
    ((reads_initializer initializer ends).bind second)
  rw [List.append_assoc]
  cases initializer with
  | none => simp [isSemicolon]
  | some given =>
    obtain ⟨isEquals, -⟩ := given
    simp [isEquals]

/-! ### Statements -/

def starters : List String :=
  ["let", "if", "while", "switch", "return"]

def enders : List String :=
  delimiters.filter fun word => !starters.contains word

theorem opens_statement : Opens Statement enders := by
  intro taken stmt statement regular
  have fewer : ∀ word ∈ enders, word ∈ delimiters := by decide
  cases statement with
  | expression recognised | assignment recognised =>
    obtain ⟨first, more, rfl, differs⟩ := opens_recognised.fewer fewer _ _ recognised
      fun token member => regular token (List.mem_append_left _ member)
    exact ⟨first, _, rfl, differs⟩
  | declaration isWord | conditional isWord | loop isWord | switch isWord | returns isWord =>
    refine ⟨_, _, rfl, ?_⟩
    rw [isWord]
    decide

section statements

variable {inner : Parse Stmt} {room : Nat} {stmts : List Stmt}

abbrev Inside (room : Nat) (inner : Parse Stmt) : Prop :=
  Covers room inner Statement fun _ => True

theorem any_isAt_iff {cursor : Cursor} {ends : List String} :
    ends.any cursor.isAt = true ↔ ∃ text ∈ ends, leads cursor.ahead = some text := by
  simp [List.any_eq_true, isAt_eq]

theorem reads_block (inside : Inside room inner) {ends : List String}
    (block : Many Statement taken stmts) (leading : leads rest = some word) (ended : word ∈ ends)
    (listed : ∀ word ∈ ends, word ∈ enders) (short : (taken ++ rest).length < room) :
    Reads (Parse.block inner ends) taken stmts rest := by
  refine reads_collect (fun _ => True) (opens_statement.fewer nofun) (fun _ _ _ _ => trivial) ?_ ?_
    trivial block
  · intro front stmt behind statement _ less
    refine .of_regular fun regular => reads_get fun cursor ahead => ?_
    obtain ⟨first, more, rfl, differs⟩ := opens_statement.fewer listed front stmt statement
      fun token member => regular token (List.mem_append_left _ member)
    -- A statement does not begin with a word that ends the block.
    have goesOn : ends.any cursor.isAt = false := by
      refine Bool.eq_false_iff.mpr fun stops => ?_
      obtain ⟨text, member, isText⟩ := any_isAt_iff.mp stops
      rw [ahead] at isText
      exact differs (Option.some.inj isText ▸ member)
    have present : cursor.current?.isNone = false := by
      rw [current?_of_ahead ahead, Option.isNone_some]
    simp only [goesOn, present]
    exact (inside _ stmt behind statement trivial (Nat.lt_of_le_of_lt less short)).finish reads_pure
  · refine reads_get fun cursor ahead => ?_
    have stops : ends.any cursor.isAt = true :=
      any_isAt_iff.mpr ⟨word, ended, by rw [ahead]; exact leading⟩
    simp only [stops, if_true]
    exact reads_pure

theorem Reads.until_end {β : Type} {next : List Stmt → Parse β} {ends : List String}
    {front back : List Token} {token : Token} {result : β} (inside : Inside room inner)
    (block : Many Statement front stmts) (isWord : token.value = word) (ended : word ∈ ends)
    (listed : ∀ word ∈ ends, word ∈ enders) (short : (front ++ token :: back ++ rest).length < room)
    (second : Reads (next stmts) (token :: back) result rest) :
    Reads (Parse.block inner ends >>= next) (front ++ token :: back) result rest := by
  have leading : leads (token :: back ++ rest) = some word := congrArg some isWord
  exact (reads_block inside block leading ended listed (by simpa using short)).bind second

/-- What may follow the body of a conditional. -/
theorem leads_alternative {body : Option (List Stmt)}
    (alternative : Perhaps (Alternative Statement) taken body) (leading : leads rest = some "end") :
    ∃ word, leads (taken ++ rest) = some word ∧ word ∈ ["else", "end"] := by
  cases alternative with
  | none => exact ⟨"end", leading, by decide⟩
  | some given =>
    obtain ⟨isElse, -⟩ := given
    exact ⟨"else", by simp [isElse], by decide⟩

theorem reads_matchingCase? (inside : Inside room inner) {arm : Case}
    (spells : Arm Statement taken arm) (leading : leads rest = some word)
    (ended : word ∈ ["case", "default", "end"]) (short : (taken ++ rest).length < room) :
    Reads (matchingCase? inner) taken (some arm) rest := by
  obtain ⟨isCase, recognised, isColon, block⟩ := spells
  refine .accept isCase (.until recognised isColon (by decide) (.expect isColon ?_))
  refine (reads_block inside block leading ended (by decide) ?_).finish reads_pure
  simp only [List.length_append, List.length_cons] at short ⊢
  omega

theorem opens_arm : Opens (Arm Statement) [] := by
  rintro taken _ ⟨isCase, -, -, -⟩ -
  exact ⟨_, _, rfl, List.not_mem_nil⟩

/-- An arm of a switch ends in front of the next one and in front of the default case. -/
theorem reads_arms (inside : Inside room inner) {arms : List Case}
    (matching : Many (Arm Statement) taken arms) (leading : leads rest = some "default")
    (short : (taken ++ rest).length < room) :
    Reads (collect (matchingCase? inner)) taken arms rest := by
  refine reads_collect (fun behind => ∃ word, leads behind = some word ∧
    word ∈ ["case", "default", "end"]) opens_arm ?_ ?_ ?_ ⟨_, leading, by decide⟩ matching
  · rintro front _ behind ⟨isCase, -, -, -⟩
    exact ⟨"case", by simp [isCase], by decide⟩
  · rintro front arm behind spells ⟨word, ahead, ended⟩ less
    exact reads_matchingCase? inside spells ahead ended (Nat.lt_of_le_of_lt less short)
  · exact .pass (by simp [leading]) reads_pure

theorem leads_arms {arms : List Case} (matching : Many (Arm Statement) taken arms)
    (leading : leads rest = some "default") :
    ∃ word, leads (taken ++ rest) = some word ∧ word ∈ delimiters := by
  cases matching with
  | nil => exact ⟨"default", leading, by decide⟩
  | cons first =>
    obtain ⟨isCase, -, -, -⟩ := first
    exact ⟨"case", by simp [isCase], by decide⟩

section forms

variable {opening closing : Token} {condition body : List Token} {expr : Expr}

/-- The body ends in front of `else` or in front of `end`. -/
theorem reads_conditional {word : Token} {other : List Token} {elseBody : Option (List Stmt)}
    (isIf : word.value = "if") (recognised : Expr.Recognised condition expr)
    (isDo : opening.value = "do") (block : Many Statement body stmts)
    (alternative : Perhaps (Alternative Statement) other elseBody) (isEnd : closing.value = "end")
    (inside : Inside
      (word :: (condition ++ opening :: (body ++ (other ++ [closing]))) ++ rest).length inner) :
    Reads (conditional inner) (word :: (condition ++ opening :: (body ++ (other ++ [closing]))))
      (.conditional expr stmts (elseBody.getD [])) rest := by
  refine .expect isIf (.until recognised isDo (by decide) (.expect isDo ?_))
  have ends : leads (closing :: rest) = some "end" := congrArg some isEnd
  obtain ⟨next, leading, listed⟩ := leads_alternative alternative ends
  refine (reads_block inside block (by simpa using leading) listed (by decide) ?_).bind ?_
  · simp only [List.length_append, List.length_cons]
    omega
  cases alternative with
  | none => exact .pass (by simp [isEnd]) (.expect isEnd reads_pure)
  | some given =>
    obtain ⟨isElse, otherwise⟩ := given
    refine .accept isElse ?_
    refine .until_end inside otherwise isEnd (by decide) (by decide) ?_ (.expect isEnd reads_pure)
    simp only [List.length_append, List.length_cons]
    omega

theorem reads_loop {word : Token} (isWhile : word.value = "while")
    (recognised : Expr.Recognised condition expr) (isDo : opening.value = "do")
    (block : Many Statement body stmts) (isEnd : closing.value = "end")
    (inside : Inside (word :: (condition ++ opening :: (body ++ [closing])) ++ rest).length inner) :
    Reads (loop inner) (word :: (condition ++ opening :: (body ++ [closing]))) (.loop expr stmts)
      rest := by
  refine .expect isWhile (.until recognised isDo (by decide) (.expect isDo ?_))
  refine .until_end inside block isEnd (by decide) (by decide) ?_ (.expect isEnd reads_pure)
  simp only [List.length_append, List.length_cons]
  omega

theorem reads_switch {word default colon : Token} {arms : List Token} {cases : List Case}
    (isSwitch : word.value = "switch") (recognised : Expr.Recognised condition expr)
    (matching : Many (Arm Statement) arms cases) (isDefault : default.value = "default")
    (isColon : colon.value = ":") (block : Many Statement body stmts)
    (isEnd : closing.value = "end")
    (inside : Inside
      (word :: (condition ++ (arms ++ default :: colon :: (body ++ [closing]))) ++ rest).length
      inner) :
    Reads (switch inner) (word :: (condition ++ (arms ++ default :: colon :: (body ++ [closing]))))
      (.switch expr (cases ++ [.otherwise stmts])) rest := by
  refine .expect isSwitch ?_
  have behind : leads (default :: colon :: (body ++ [closing]) ++ rest) = some "default" :=
    congrArg some isDefault
  obtain ⟨next, leading, listed⟩ := leads_arms matching behind
  refine Reads.bind (reads_recognised recognised (by rwa [List.append_assoc]) listed) ?_
  refine Reads.bind (reads_arms inside matching behind ?_) (.expect isDefault (.expect isColon ?_))
  · simp only [List.length_append, List.length_cons]
    omega
  refine .until_end inside block isEnd (by decide) (by decide) ?_ (.expect isEnd reads_pure)
  simp only [List.length_append, List.length_cons]
  omega

end forms

theorem reads_simple {stmt : Stmt} {front back : List Token} {expr : Expr}
    (recognised : Expr.Recognised front expr)
    (reads : Reads simple (front ++ back) stmt rest) :
    Reads (form inner) (front ++ back) stmt rest := by
  refine .of_regular fun regular => ?_
  -- No expression begins with one of the words that are asked for before.
  have plain : ∀ word ∈ delimiters, leads (front ++ back ++ rest) ≠ some word := by
    intro word listed
    rw [List.append_assoc]
    exact opens_recognised.leads_ne recognised listed fun token member =>
      regular token (by simp [member])
  exact .unseen (plain _ (by decide)) (.unseen (plain _ (by decide)) (.unseen (plain _ (by decide))
    (.unseen (plain _ (by decide)) (.unseen (plain _ (by decide)) reads))))

theorem reads_form (inside : Inside (taken ++ rest).length inner) {stmt : Stmt}
    (statement : Statement taken stmt) : Reads (form inner) taken stmt rest := by
  cases statement with
  | declaration isLet isName typing initializer isSemicolon =>
    refine .seen (by simp [isLet]) (.expect isLet (.identifier isName ?_))
    exact .declared typing initializer isSemicolon (.expect isSemicolon reads_pure)
  | conditional isIf recognised isDo block alternative isEnd =>
    refine .unseen (by simp [isIf]) (.seen (by simp [isIf]) ?_)
    exact reads_conditional isIf recognised isDo block alternative isEnd inside
  | loop isWhile recognised isDo block isEnd =>
    refine .unseen (by simp [isWhile]) (.unseen (by simp [isWhile]) (.seen (by simp [isWhile]) ?_))
    exact reads_loop isWhile recognised isDo block isEnd inside
  | switch isSwitch recognised matching isDefault isColon block isEnd =>
    refine .unseen (by simp [isSwitch]) (.unseen (by simp [isSwitch]) (.unseen (by simp [isSwitch])
      (.seen (by simp [isSwitch]) ?_)))
    exact reads_switch isSwitch recognised matching isDefault isColon block isEnd inside
  | returns isReturn recognised isSemicolon =>
    refine .unseen (by simp [isReturn]) (.unseen (by simp [isReturn]) (.unseen (by simp [isReturn])
      (.unseen (by simp [isReturn]) (.seen (by simp [isReturn]) (.expect isReturn ?_)))))
    exact .until recognised isSemicolon (by decide) (.expect isSemicolon reads_pure)
  | expression recognised isSemicolon =>
    refine reads_simple recognised (.until recognised isSemicolon (by decide) ?_)
    exact .pass (by simp [isSemicolon]) (.expect isSemicolon reads_pure)
  | assignment receives isEquals recognised isSemicolon =>
    refine reads_simple receives (.until receives isEquals (by decide) (.accept isEquals ?_))
    exact .until recognised isSemicolon (by decide) (.expect isSemicolon reads_pure)

theorem reads_statement {stmt : Stmt} (statement : Statement taken stmt) :
    Reads Parse.statement taken stmt rest :=
  reads_nested (fun _ _ _ statement _ _ inside => reads_form inside statement) statement trivial

end statements

/-! ### Programs -/

theorem reads_global {global : Primer.Global} (spells : Phrase.Global taken global) :
    Reads Parse.global taken global rest := by
  cases spells with
  | val isVal isName typing initial isSemicolon =>
    refine .pass (by simp [isVal]) (.expect isVal (.identifier isName ?_))
    exact .declared typing (.some initial) isSemicolon (.expect isSemicolon reads_pure)
  | var isVar isName typing initializer isSemicolon =>
    refine .accept isVar (.identifier isName ?_)
    exact .declared typing initializer isSemicolon (.expect isSemicolon reads_pure)

theorem reads_parameter {names : String × String} (spells : Parameter taken names) :
    Reads parameter taken names rest := by
  obtain ⟨isName, isColon, isType⟩ := spells
  exact .identifier isName (.expect isColon (.identifier isType reads_pure))

/-- A name is not the parenthesis that closes the list. -/
theorem opens_parameter : Opens Parameter [")"] := by
  rintro taken _ ⟨isName, -, -⟩ regular
  refine ⟨_, _, rfl, fun closes => ?_⟩
  have mark := (regular _ List.mem_cons_self).mark (List.mem_singleton.mp closes ▸ by decide)
  rw [(of_isName isName).1] at mark
  cases mark

theorem reads_function {function : Primer.Function} (spells : Phrase.Function taken function) :
    Reads Parse.function taken function rest := by
  obtain ⟨isFun, isName, opens, enclosed, typing, isDo, block, isEnd⟩ := spells
  have inside (room : Nat) : Inside room Parse.statement :=
    fun _ _ _ statement _ _ => reads_statement statement
  refine .expect isFun (.identifier isName (.expect opens ?_))
  refine (reads_separated opens_parameter (by decide) ?_ enclosed).bind ?_
  · exact fun _ _ _ spells _ _ => reads_parameter spells
  refine Reads.bind (reads_typeName typing (by simp [isDo])) (.expect isDo ?_)
  exact .until_end (inside _) block isEnd (by decide) (by decide) (Nat.lt_succ_self _)
    (.expect isEnd reads_pure)

theorem opens_global : Opens Phrase.Global ["fun"] := by
  intro taken global spells _
  cases spells with
  | val isWord | var isWord =>
    refine ⟨_, _, rfl, ?_⟩
    rw [isWord]
    decide

theorem opens_function : Opens Phrase.Function ["val", "var"] := by
  rintro taken _ ⟨isFun, -, -, -, -, -, -, -⟩ -
  refine ⟨_, _, rfl, ?_⟩
  rw [isFun]
  decide

theorem reads_global? {global : Primer.Global} (spells : Phrase.Global taken global) :
    Reads global? taken (some global) rest := by
  have read : Reads (do return some (← Parse.global)) taken (some global) rest :=
    (reads_global spells).finish reads_pure
  cases spells with
  | val isVal => exact .seen (by simp [isVal]) (.unseen (by simp [isVal]) read)
  | var isVar => exact .unseen (by simp [isVar]) (.seen (by simp [isVar]) read)

theorem reads_function? {function : Primer.Function} (spells : Phrase.Function taken function) :
    Reads function? taken (some function) rest := by
  have read : Reads (do return some (← Parse.function)) taken (some function) rest :=
    (reads_function spells).finish reads_pure
  obtain ⟨isFun, -, -, -, -, -, -, -⟩ := spells
  exact .seen (by simp [isFun]) read

theorem leads_functions {functions : List Primer.Function}
    (allFunctions : Many Phrase.Function taken functions)
    (regular : ∀ token ∈ taken, token.Regular) :
    leads taken ≠ some "val" ∧ leads taken ≠ some "var" := by
  cases allFunctions with
  | nil => simp
  | cons first =>
    have regularFront := fun token member => regular token (List.mem_append_left _ member)
    exact ⟨opens_function.leads_ne first (by decide) regularFront,
      opens_function.leads_ne first (by decide) regularFront⟩

theorem reads_program {program : Primer.Program} (spells : Phrase.Program taken program) :
    Reads Parse.program taken program [] := by
  refine .of_regular fun regular => ?_
  rw [List.append_nil] at regular
  obtain ⟨allGlobals, allFunctions⟩ := spells
  obtain ⟨noVal, noVar⟩ := leads_functions allFunctions fun token member =>
    regular token (List.mem_append_right _ member)
  refine Reads.bind (reads_collect (fun _ => True) (opens_global.fewer nofun)
    (fun _ _ _ _ => trivial) (fun _ _ _ spells _ _ => reads_global? spells) ?_ trivial
    allGlobals) ?_
  -- The globals end where the functions begin.
  · rw [List.append_nil]
    exact .unseen noVal (.unseen noVar reads_pure)
  refine Reads.finish (reads_collect (fun _ => True) (opens_function.fewer nofun)
    (fun _ _ _ _ => trivial) (fun _ _ _ spells _ _ => reads_function? spells) ?_ trivial
    allFunctions) ?_
  · exact .unseen (by simp) reads_pure
  · exact .current reads_pure

end Primer.Parse
