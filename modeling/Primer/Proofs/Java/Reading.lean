import Primer.Proofs.Java.Literal
import Primer.Proofs.Java.Reader

/-! Java expressions are read back from their text.

The text of an expression lexes to the lexemes of its parts in order, and the reader groups these as
the expression does whenever Java allows that grouping.
-/

set_option autoImplicit false

namespace Primer.Java

mutual

def Expr.grouping : Expr → Grouping
  | .literal value => .ofLiteral value.javaText.toList
  | .parenthesized inner => .parenthesized inner.grouping
  | .binary operator left right => .binary operator left.grouping right.grouping
  | .power base exponent =>
    .unary (.cast "int") (.call "Math.pow" [base.grouping, exponent.grouping])
  | .name identifier => .operand identifier
  | .element array index => .element array index.grouping
  | .call method arguments => .call method (Expr.groupings arguments)
  | .initializer elements => .initializer (Expr.groupings elements)

def Expr.groupings : List Expr → List Grouping
  | [] => []
  | first :: rest => first.grouping :: Expr.groupings rest

end

mutual

def Expr.lexemes : Expr → List Lexeme
  | .literal value => Lexeme.ofLiteral value.javaText.toList
  | .parenthesized inner => .opening :: inner.lexemes ++ [.closing]
  | .binary operator left right => left.lexemes ++ .operator operator :: right.lexemes
  | .power base exponent =>
    [.opening, .operand "int", .closing, .operand "Math.pow", .opening] ++
      (base.lexemes ++ .comma :: exponent.lexemes) ++ [.closing]
  | .name identifier => [.operand identifier]
  | .element array index => .operand array :: .openingIndex :: index.lexemes ++ [.closingIndex]
  | .call method arguments =>
    .operand method :: .opening :: Expr.argumentLexemes arguments ++ [.closing]
  | .initializer _ => []

def Expr.argumentLexemes : List Expr → List Lexeme
  | [] => []
  | first :: rest => first.lexemes ++ Expr.laterLexemes rest

def Expr.laterLexemes : List Expr → List Lexeme
  | [] => []
  | first :: rest => .comma :: first.lexemes ++ Expr.laterLexemes rest

end

mutual

/-- Every name is a word, and there is no array initializer. -/
def Expr.Legible : Expr → Prop
  | .literal _ => True
  | .parenthesized inner => inner.Legible
  | .binary _ left right | .power left right => left.Legible ∧ right.Legible
  | .name identifier => isWord identifier.toList = true
  | .element array index => isWord array.toList = true ∧ index.Legible
  | .call method arguments => isWord method.toList = true ∧ Expr.AllLegible arguments
  | .initializer _ => False

def Expr.AllLegible : List Expr → Prop
  | [] => True
  | first :: rest => first.Legible ∧ Expr.AllLegible rest

end

namespace Expr

theorem text_literal (value : Literal) : (literal value).text = value.javaText :=
  rfl

theorem text_parenthesized (inner : Expr) :
    (parenthesized inner).text = "(" ++ inner.text ++ ")" :=
  rfl

theorem text_binary (operator : Operator) (left right : Expr) :
    (binary operator left right).text = left.text ++ " " ++ operator.symbol ++ " " ++ right.text :=
  rfl

theorem text_power (base exponent : Expr) :
    (power base exponent).text = "(int) Math.pow(" ++ base.text ++ ", " ++ exponent.text ++ ")" :=
  rfl

theorem text_name (identifier : String) : (name identifier).text = identifier :=
  rfl

theorem text_element (array : String) (index : Expr) :
    (element array index).text = array ++ "[" ++ index.text ++ "]" :=
  rfl

theorem text_call (method : String) (arguments : List Expr) :
    (call method arguments).text = method ++ "(" ++ ", ".intercalate (texts arguments) ++ ")" :=
  rfl

theorem texts_nil : texts [] = [] :=
  rfl

theorem texts_cons (first : Expr) (rest : List Expr) :
    texts (first :: rest) = first.text :: texts rest :=
  rfl

end Expr

section lexing

def laterText (texts : List String) : List Char :=
  texts.flatMap fun text => ',' :: ' ' :: text.toList

theorem toList_intercalate_cons (first : String) (rest : List String) :
    (", ".intercalate (first :: rest)).toList = first.toList ++ laterText rest := by
  induction rest generalizing first with
  | nil => simp [laterText]
  | cons second rest ih =>
    have comma : ", ".toList = [',', ' '] := by decide
    rw [String.intercalate_cons_cons, String.toList_append, ih, String.toList_append, comma]
    simp [laterText]

theorem separates_later (texts : List String) {rest : List Char} (separates : Separates rest) :
    Separates (laterText texts ++ rest) := by
  cases texts with
  | nil => exact separates
  | cons first others => exact separates_cons _ (.inr rfl)

theorem lexes_comma : Lexes (fun _ => True) [',', ' '] [.comma] :=
  (lexes_bracket rfl).append lexes_space fun _ _ => trivial

theorem lexes_name {name : String} (word : isWord name.toList = true) :
    Lexes Separates name.toList [.operand name] := by
  have lexes := lexes_word word
  rwa [String.ofList_toList] at lexes

theorem lexes_enclosed (front back : Char) {opened close : Lexeme}
    (isOpen : Lexeme.ofChar? front = some opened) (isClose : Lexeme.ofChar? back = some close)
    {text : List Char} {lexemes : List Lexeme} (inside : Lexes Separates text lexemes) :
    Lexes (fun _ => True) (front :: text ++ [back]) (opened :: lexemes ++ [close]) := by
  have start := (lexes_bracket isOpen).append inside fun _ _ => trivial
  apply start.append (lexes_bracket isClose)
  intro rest _
  exact separates_cons rest (.inr (by simp [isClose]))

theorem lexes_applied {name : String} (word : isWord name.toList = true) {front : Char}
    {opened : Lexeme} (isOpen : Lexeme.ofChar? front = some opened) {text : List Char}
    {lexemes : List Lexeme} (behind : Lexes (fun _ => True) (front :: text) lexemes) :
    Lexes Separates (name.toList ++ front :: text) (.operand name :: lexemes) := by
  apply (lexes_name word).append (behind.mono fun _ _ => trivial)
  intro rest _
  exact separates_cons _ (.inr (by simp [isOpen]))

theorem lexes_cast :
    Lexes (fun _ => True) "(int) ".toList [.opening, .operand "int", .closing] := by
  have type : Lexes Separates "int".toList [.operand "int"] := lexes_name (by decide)
  have enclosed : Lexes (fun _ => True) ('(' :: "int".toList ++ [')'])
      [.opening, .operand "int", .closing] := lexes_enclosed '(' ')' rfl rfl type
  have text : "(int) ".toList = '(' :: "int".toList ++ [')'] ++ [' '] := by decide
  rw [text]
  exact enclosed.append lexes_space fun _ _ => trivial

mutual

/-- The text of an expression reads as its lexemes in front of a gap, a bracket or a comma. -/
theorem Expr.lexes_text : (expr : Expr) → expr.Legible →
    Lexes Separates expr.text.toList expr.lexemes
  | .literal value, _ => by
    rw [Expr.text_literal, Expr.lexemes]
    exact value.written.lexes
  | .parenthesized inner, legible => by
    have enclosed := lexes_enclosed '(' ')' rfl rfl (inner.lexes_text legible)
    have text : (Expr.parenthesized inner).text.toList = '(' :: inner.text.toList ++ [')'] := by
      simp [Expr.text_parenthesized]
    rw [text, Expr.lexemes]
    exact enclosed.mono fun _ _ => trivial
  | .binary operator left right, ⟨leftLegible, rightLegible⟩ => by
    have text : (Expr.binary operator left right).text.toList =
        left.text.toList ++ (' ' :: operator.symbol.toList ++ [' '] ++ right.text.toList) := by
      simp [Expr.text_binary]
    rw [text, Expr.lexemes, ← List.singleton_append]
    apply (left.lexes_text leftLegible).append
    · exact (lexes_operator operator).append (right.lexes_text rightLegible) fun _ _ => trivial
    · exact fun rest _ => separates_cons _ (.inl rfl)
  | .power base exponent, ⟨baseLegible, exponentLegible⟩ => by
    have arguments : Lexes Separates (base.text.toList ++ ([',', ' '] ++ exponent.text.toList))
        (base.lexemes ++ ([.comma] ++ exponent.lexemes)) := by
      apply (base.lexes_text baseLegible).append
      · exact lexes_comma.append (exponent.lexes_text exponentLegible) fun _ _ => trivial
      · exact fun rest _ => separates_cons _ (.inr rfl)
    have enclosed := lexes_enclosed '(' ')' rfl rfl arguments
    have isWord : isWord "Math.pow".toList = true := by decide
    have applied := lexes_applied isWord rfl enclosed
    have whole := lexes_cast.append applied fun _ _ => trivial
    have text : (Expr.power base exponent).text.toList = "(int) ".toList ++ ("Math.pow".toList ++
        '(' :: ((base.text.toList ++ ([',', ' '] ++ exponent.text.toList)) ++ [')'])) := by
      simp [Expr.text_power]
    rw [text]
    simpa [Expr.lexemes] using whole
  | .name identifier, word => by
    rw [Expr.text_name, Expr.lexemes]
    exact lexes_name word
  | .element array index, ⟨word, legible⟩ => by
    have enclosed := lexes_enclosed '[' ']' rfl rfl (index.lexes_text legible)
    have text : (Expr.element array index).text.toList =
        array.toList ++ '[' :: (index.text.toList ++ [']']) := by
      simp [Expr.text_element]
    rw [text]
    exact lexes_applied word rfl enclosed
  | .call method arguments, ⟨word, legible⟩ => by
    have enclosed := lexes_enclosed '(' ')' rfl rfl (Expr.lexes_arguments arguments legible)
    have text : (Expr.call method arguments).text.toList =
        method.toList ++ '(' :: ((", ".intercalate (Expr.texts arguments)).toList ++ [')']) := by
      simp [Expr.text_call]
    rw [text]
    exact lexes_applied word rfl enclosed

theorem Expr.lexes_arguments : (arguments : List Expr) → Expr.AllLegible arguments →
    Lexes Separates (", ".intercalate (Expr.texts arguments)).toList
      (Expr.argumentLexemes arguments)
  | [], _ => fun done rest _ => by simp [Expr.texts_nil, Expr.argumentLexemes]
  | first :: rest, ⟨legible, others⟩ => by
    rw [Expr.texts_cons, toList_intercalate_cons, Expr.argumentLexemes]
    exact (first.lexes_text legible).append (Expr.lexes_later rest others)
      fun _ => separates_later (Expr.texts rest)

theorem Expr.lexes_later : (arguments : List Expr) → Expr.AllLegible arguments →
    Lexes Separates (laterText (Expr.texts arguments)) (Expr.laterLexemes arguments)
  | [], _ => fun done rest _ => by simp [Expr.texts_nil, Expr.laterLexemes, laterText]
  | first :: rest, ⟨legible, others⟩ => by
    have text : laterText (Expr.texts (first :: rest)) =
        [',', ' '] ++ (first.text.toList ++ laterText (Expr.texts rest)) := by
      simp [Expr.texts_cons, laterText]
    rw [text, Expr.laterLexemes, List.cons_append, ← List.singleton_append]
    apply lexes_comma.append _ fun _ _ => trivial
    exact (first.lexes_text legible).append (Expr.lexes_later rest others)
      fun _ => separates_later (Expr.texts rest)

end

end lexing

section running

/-- With nothing in front but `left`, the reader makes `whole` of the lexemes, wherever it is. -/
def Reads (left : Option (Grouping × Operator)) (lexemes : List Lexeme) (whole : Grouping) : Prop :=
  ∀ outer, ∃ pending : Pending, pending.complete? = some whole ∧ ∀ rest,
    ({ current := { left }, outer } : Reader).run (lexemes ++ rest) =
      ({ current := pending, outer } : Reader).run rest

theorem Reader.run_cons {reader next : Reader} {lexeme : Lexeme}
    (stepped : reader.step? lexeme = some next) (rest : List Lexeme) :
    reader.run (lexeme :: rest) = next.run rest := by
  simp only [Reader.run, stepped]

/-- The operator in front of an expression binds more loosely than the expression. -/
def Follows (left : Option (Grouping × Operator)) (whole : Grouping) : Prop :=
  ∀ front operator, left = some (front, operator) → operator.javaRank < whole.rank

theorem follows_none (whole : Grouping) : Follows none whole :=
  nofun

theorem Grouping.join_binary {left : Option (Grouping × Operator)} {operator : Operator}
    {first second : Grouping} (follows : Follows left (.binary operator first second))
    (tight : operator.javaRank ≤ first.rank) :
    (Grouping.join left first).extend operator second =
      Grouping.join left (.binary operator first second) := by
  cases left with
  | none => exact Grouping.extend_of_rank_le second tight
  | some front =>
    obtain ⟨whole, outer⟩ := front
    have looser := follows whole outer rfl
    change (whole.extend outer first).extend operator second = whole.extend outer _
    -- The operator in front is looser, so this one takes its operand out of the tree on the right.
    rw [Grouping.extend_extend first second looser, Grouping.extend_of_rank_le second tight]

variable {left : Option (Grouping × Operator)}

theorem reads_operand (text : String) :
    Reads left [.operand text] (Grouping.join left (.operand text)) :=
  fun _ => ⟨{ left, operand := some (.operand text) }, rfl, fun _ => rfl⟩

theorem reads_literal (text : List Char) :
    Reads left (Lexeme.ofLiteral text) (Grouping.join left (.ofLiteral text)) := by
  unfold Lexeme.ofLiteral Grouping.ofLiteral
  split
  case h_1 number =>
    intro outer
    exact ⟨{ left, unary := [.minus], operand := some (.operand (String.ofList number)) }, rfl,
      fun _ => rfl⟩
  case h_2 => exact reads_operand _

theorem reads_parenthesized {lexemes : List Lexeme} {inner : Grouping}
    (reads : Reads none lexemes inner) :
    Reads left (.opening :: lexemes ++ [.closing]) (Grouping.join left (.parenthesized inner)) := by
  intro outer
  obtain ⟨pending, completed, ran⟩ := reads (({ left }, .parenthesis) :: outer)
  refine ⟨{ left, operand := some (.parenthesized inner) }, rfl, fun rest => ?_⟩
  have opened : ({ current := { left }, outer } : Reader).step? .opening =
      some (Reader.enter { left } .parenthesis outer) := rfl
  rw [List.cons_append, List.cons_append, List.append_assoc, Reader.run_cons opened]
  refine (ran _).trans (Reader.run_cons ?_ rest)
  simp only [Reader.step?, completed, Option.map_some, Pending.put]

theorem reads_element (array : String) {lexemes : List Lexeme} {index : Grouping}
    (reads : Reads none lexemes index) :
    Reads left (.operand array :: .openingIndex :: lexemes ++ [.closingIndex])
      (Grouping.join left (.element array index)) := by
  intro outer
  let front : Pending := { left, operand := some (.operand array) }
  obtain ⟨pending, completed, ran⟩ := reads ((front, .element array) :: outer)
  refine ⟨{ left, operand := some (.element array index) }, rfl, fun rest => ?_⟩
  have named : ({ current := { left }, outer } : Reader).step? (.operand array) =
      some { current := front, outer } := rfl
  have opened : ({ current := front, outer } : Reader).step? .openingIndex =
      some (Reader.enter front (.element array) outer) := rfl
  simp only [List.cons_append, List.append_assoc]
  rw [Reader.run_cons named, Reader.run_cons opened]
  refine (ran _).trans (Reader.run_cons ?_ rest)
  simp only [Reader.step?, completed, Option.map_some, Pending.put, front]

theorem reads_binary {operator : Operator} {first second : Grouping} {before behind : List Lexeme}
    (readsFirst : Reads left before (Grouping.join left first))
    (readsSecond : ∀ whole, Reads (some (whole, operator)) behind (whole.extend operator second))
    (follows : Follows left (.binary operator first second))
    (tight : operator.javaRank ≤ first.rank) :
    Reads left (before ++ .operator operator :: behind)
      (Grouping.join left (.binary operator first second)) := by
  intro outer
  obtain ⟨middle, completed, ran⟩ := readsFirst outer
  obtain ⟨last, ended, finished⟩ := readsSecond (Grouping.join left first) outer
  rw [Grouping.join_binary follows tight] at ended
  refine ⟨last, ended, fun rest => ?_⟩
  have stepped : ({ current := middle, outer } : Reader).step? (.operator operator) =
      some { current := { left := some (Grouping.join left first, operator) }, outer } := by
    simp only [Reader.step?, completed]
  rw [List.append_assoc, ran, List.cons_append, Reader.run_cons stepped, finished]

/-- The last argument of a call ends with the call. -/
theorem run_closing {current pending : Pending} {method : String} {before : List Grouping}
    {last : Grouping} (completed : current.complete? = some last) (outer : List (Pending × Opening))
    (rest : List Lexeme) :
    ({ current, outer := (pending, .call method before) :: outer } : Reader).run
        (.closing :: rest) =
      ({ current := pending.put (.call method (before.reverse ++ [last])), outer } : Reader).run
        rest := by
  apply Reader.run_cons
  simp only [Reader.step?, Pending.arguments?, completed, Option.map_some, List.reverse_cons]

theorem run_comma {current pending : Pending} {method : String} {before : List Grouping}
    {argument : Grouping} (completed : current.complete? = some argument)
    (outer : List (Pending × Opening)) (rest : List Lexeme) :
    ({ current, outer := (pending, .call method before) :: outer } : Reader).run (.comma :: rest) =
      (Reader.enter pending (.call method (argument :: before)) outer).run rest := by
  apply Reader.run_cons
  simp only [Reader.step?, completed]

/-- The arguments of a power are those of a call behind a cast. -/
theorem reads_power {base exponent : Grouping} {first second : List Lexeme}
    (readsBase : Reads none first base) (readsExponent : Reads none second exponent) :
    Reads left ([.opening, .operand "int", .closing, .operand "Math.pow", .opening] ++
        (first ++ .comma :: second) ++ [.closing])
      (Grouping.join left (.unary (.cast "int") (.call "Math.pow" [base, exponent]))) := by
  intro outer
  let front : Pending :=
    { left, unary := [.cast "int"], operand := some (.operand "Math.pow") }
  obtain ⟨middle, completed, ran⟩ := readsBase ((front, .call "Math.pow" []) :: outer)
  obtain ⟨last, ended, finished⟩ := readsExponent ((front, .call "Math.pow" [base]) :: outer)
  refine ⟨front.put (.call "Math.pow" [base, exponent]), rfl, fun rest => ?_⟩
  have start (more : List Lexeme) : ({ current := { left }, outer } : Reader).run
      ([.opening, .operand "int", .closing, .operand "Math.pow", .opening] ++ more) =
        (Reader.enter front (.call "Math.pow" []) outer).run more := rfl
  simp only [List.append_assoc, List.cons_append] at start ⊢
  rw [start]
  apply (ran _).trans
  rw [run_comma completed]
  apply (finished _).trans
  exact run_closing ended outer rest

mutual

/-- An expression that Java can group as it does is read so. -/
theorem Expr.reads : (expr : Expr) → expr.Legible → expr.grouping.Stratified →
    ∀ left, Follows left expr.grouping →
      Reads left expr.lexemes (Grouping.join left expr.grouping)
  | .literal value, _, _, _, _ => reads_literal value.javaText.toList
  | .parenthesized inner, legible, stratified, left, _ =>
    reads_parenthesized (inner.reads legible stratified none (follows_none _))
  | .binary operator first second, legible, stratified, left, follows => by
    obtain ⟨⟨tight, tighter⟩, firstStratified, secondStratified⟩ := stratified
    have looser : Follows left first.grouping := fun front outer isLeft =>
      Nat.lt_of_lt_of_le (follows front outer isLeft) tight
    have behind (whole : Grouping) : Follows (some (whole, operator)) second.grouping := by
      intro front outer isLeft
      cases isLeft
      exact tighter
    exact reads_binary (first.reads legible.1 firstStratified left looser)
      (fun whole => second.reads legible.2 secondStratified _ (behind whole)) follows tight
  | .power base exponent, legible, stratified, left, _ => by
    obtain ⟨-, baseStratified, exponentStratified, -⟩ := stratified
    exact reads_power (base.reads legible.1 baseStratified none (follows_none _))
      (exponent.reads legible.2 exponentStratified none (follows_none _))
  | .name identifier, _, _, _, _ => reads_operand identifier
  | .element array index, legible, stratified, left, _ =>
    reads_element array (index.reads legible.2 stratified none (follows_none _))
  | .call method [], _, _, left, _ => fun outer =>
    ⟨{ left, operand := some (.call method []) }, rfl, fun _ => rfl⟩
  | .call method (first :: rest), legible, stratified, left, _ => by
    intro outer
    -- The first argument opens the frame of the call; each further one finds it as a comma left it.
    let front : Pending := { left, operand := some (.operand method) }
    obtain ⟨pending, completed, ran⟩ := first.reads legible.2.1 stratified.1 none (follows_none _)
      ((front, .call method []) :: outer)
    refine ⟨front.put (.call method (Expr.groupings (first :: rest))), rfl, fun more => ?_⟩
    have start (more : List Lexeme) : ({ current := { left }, outer } : Reader).run
        (.operand method :: .opening :: more) =
          (Reader.enter front (.call method []) outer).run more := rfl
    simp only [Expr.lexemes, Expr.argumentLexemes, List.append_assoc, List.cons_append,
      List.nil_append]
    rw [start]
    apply (ran _).trans
    exact Expr.run_later rest legible.2.2 stratified.2 completed [] outer more

/-- Further arguments are read behind those that stand before them. -/
theorem Expr.run_later {pending current : Pending} {method : String} {last : Grouping} :
    (arguments : List Expr) → Expr.AllLegible arguments →
    Grouping.AllStratified (Expr.groupings arguments) → current.complete? = some last →
    ∀ (before : List Grouping) (outer : List (Pending × Opening)) (rest : List Lexeme),
      ({ current, outer := (pending, .call method before) :: outer } : Reader).run
          (Expr.laterLexemes arguments ++ .closing :: rest) =
        ({ current := pending.put (.call method
            (before.reverse ++ last :: Expr.groupings arguments)), outer } : Reader).run rest
  | [], _, _, completed, _, outer, rest => run_closing completed outer rest
  | first :: others, legible, stratified, completed, before, outer, rest => by
    obtain ⟨next, ended, ran⟩ := first.reads legible.1 stratified.1 none (follows_none _)
      ((pending, .call method (last :: before)) :: outer)
    simp only [Expr.laterLexemes, List.append_assoc, List.cons_append]
    rw [run_comma completed]
    apply (ran _).trans
    apply (Expr.run_later others legible.2 stratified.2 ended (last :: before) outer rest).trans
    simp only [Expr.groupings, Grouping.join, List.reverse_cons, List.append_assoc,
      List.singleton_append]

end

/-- Java reads the text of an expression as the expression groups it, just if it can mean that. -/
theorem Expr.read_text_iff {expr : Expr} (legible : expr.Legible) :
    read expr.text = some expr.grouping ↔ expr.grouping.Stratified := by
  constructor
  · exact stratified_of_read
  · intro stratified
    obtain ⟨pending, completed, ran⟩ :=
      expr.reads legible stratified none (follows_none _) []
    have lexed := (expr.lexes_text legible).lex_eq
    have whole := ran []
    rw [List.append_nil] at whole
    rw [read, lexed, Option.bind_some]
    exact whole.trans completed

end running

end Primer.Java
