import Primer.Proofs.Java.Grouping
import Primer.Proofs.Java.Lexing

/-! Grouping lexemes.

The reader goes through the lexemes once. Outside of brackets it holds a grouping, the operator
behind it and the operand after that; every open bracket keeps what stood before it. Whatever it
reads obeys Java's precedence and associativity.
-/

set_option autoImplicit false

namespace Primer.Java

/-- An expression up to some place in it. -/
structure Pending where
  left : Option (Grouping × Operator) := none
  unary : List Unary := []
  operand : Option Grouping := none

/-- What an open bracket belongs to. -/
inductive Opening where
  | parenthesis
  | element (array : String)
  | call (method : String) (arguments : List Grouping)

structure Reader where
  current : Pending := {}
  outer : List (Pending × Opening) := []

def Grouping.join (left : Option (Grouping × Operator)) (right : Grouping) : Grouping :=
  match left with
  | some (whole, operator) => whole.extend operator right
  | none => right

namespace Pending

def complete? (pending : Pending) : Option Grouping :=
  pending.operand.map fun operand =>
    Grouping.join pending.left
      (pending.unary.foldl (fun inner operator => .unary operator inner) operand)

def begin? (pending : Pending) : Option Pending :=
  match pending.operand with
  | none => some pending
  | some (.parenthesized (.operand type)) =>
    some { pending with unary := .cast type :: pending.unary, operand := none }
  | some _ => none

def put (pending : Pending) (operand : Grouping) : Pending :=
  { pending with operand := some operand }

def isEmpty (pending : Pending) : Bool :=
  pending.left.isNone && pending.unary.isEmpty && pending.operand.isNone

def arguments? (pending : Pending) (before : List Grouping) : Option (List Grouping) :=
  match pending.complete? with
  | some last => some (last :: before).reverse
  | none => if before.isEmpty && pending.isEmpty then some [] else none

end Pending

namespace Reader

def enter (pending : Pending) (opening : Opening) (outer : List (Pending × Opening)) : Reader :=
  { current := {}, outer := (pending, opening) :: outer }

def step? (reader : Reader) : Lexeme → Option Reader
  | .operand text =>
    reader.current.begin?.map fun pending => { reader with current := pending.put (.operand text) }
  | .operator operator =>
    match reader.current.complete? with
    | some whole => some { reader with current := { left := some (whole, operator) } }
    | none =>
      if operator = .subtract then
        some { reader with
          current := { reader.current with unary := .minus :: reader.current.unary } }
      else none
  | .opening =>
    match reader.current.operand with
    | some (.operand method) => some (enter reader.current (.call method []) reader.outer)
    | _ => reader.current.begin?.map fun pending => enter pending .parenthesis reader.outer
  | .openingIndex =>
    match reader.current.operand with
    | some (.operand array) => some (enter reader.current (.element array) reader.outer)
    | _ => none
  | .comma =>
    match reader.outer, reader.current.complete? with
    | (pending, .call method arguments) :: outer, some argument =>
      some (enter pending (.call method (argument :: arguments)) outer)
    | _, _ => none
  | .closing =>
    match reader.outer with
    | (pending, .parenthesis) :: outer => reader.current.complete?.map fun inner =>
      { current := pending.put (.parenthesized inner), outer }
    | (pending, .call method before) :: outer => (reader.current.arguments? before).map fun all =>
      { current := pending.put (.call method all), outer }
    | _ => none
  | .closingIndex =>
    match reader.outer with
    | (pending, .element array) :: outer => reader.current.complete?.map fun index =>
      { current := pending.put (.element array index), outer }
    | _ => none

def run (reader : Reader) : List Lexeme → Option Grouping
  | [] => if reader.outer.isEmpty then reader.current.complete? else none
  | lexeme :: rest =>
    match reader.step? lexeme with
    | some next => next.run rest
    | none => none

end Reader

def read (text : String) : Option Grouping :=
  (lex text.toList).bind ({ } : Reader).run

section obedience

structure Pending.Stratified (pending : Pending) : Prop where
  left : ∀ whole operator, pending.left = some (whole, operator) → whole.Stratified
  operand : ∀ operand, pending.operand = some operand →
    operand.Stratified ∧ Grouping.unaryRank ≤ operand.rank

def Opening.Stratified : Opening → Prop
  | call _ arguments => Grouping.AllStratified arguments
  | parenthesis | element _ => True

structure Reader.Stratified (reader : Reader) : Prop where
  current : reader.current.Stratified
  outer : ∀ frame ∈ reader.outer, frame.1.Stratified ∧ frame.2.Stratified

namespace Pending.Stratified

variable {pending : Pending}

theorem empty : ({ } : Pending).Stratified :=
  ⟨nofun, nofun⟩

theorem put (stratified : pending.Stratified) {operand : Grouping} (inside : operand.Stratified)
    (tight : Grouping.unaryRank ≤ operand.rank) : (pending.put operand).Stratified := by
  refine ⟨stratified.left, ?_⟩
  intro other isOperand
  cases isOperand
  exact ⟨inside, tight⟩

theorem begin (stratified : pending.Stratified) {ready : Pending}
    (begun : pending.begin? = some ready) : ready.Stratified := by
  unfold begin? at begun
  split at begun
  · cases begun
    exact stratified
  · cases begun
    exact ⟨stratified.left, nofun⟩
  · cases begun

/-- Unary operators bind more tightly than what stands before them. -/
theorem complete (stratified : pending.Stratified) {whole : Grouping}
    (completed : pending.complete? = some whole) : whole.Stratified := by
  obtain ⟨operand, isOperand, rfl⟩ := Option.map_eq_some_iff.mp completed
  have signed (unary : List Unary) (inner : Grouping) (inside : inner.Stratified)
      (tight : Grouping.unaryRank ≤ inner.rank) :
      (unary.foldl (fun inner operator => .unary operator inner) inner).Stratified ∧
        Grouping.unaryRank ≤
          (unary.foldl (fun inner operator => Grouping.unary operator inner) inner).rank := by
    induction unary generalizing inner with
    | nil => exact ⟨inside, tight⟩
    | cons operator rest ih => exact ih (.unary operator inner) ⟨tight, inside⟩ (Nat.le_refl _)
  obtain ⟨inside, tight⟩ := stratified.operand operand isOperand
  obtain ⟨inside, tight⟩ := signed pending.unary operand inside tight
  unfold Grouping.join
  split
  case h_1 whole operator isLeft =>
    apply Grouping.stratified_extend _ inside (stratified.left whole operator isLeft)
    exact Nat.lt_of_lt_of_le (Grouping.javaRank_lt_unaryRank operator) tight
  case h_2 => exact inside

theorem arguments (stratified : pending.Stratified) {before all : List Grouping}
    (earlier : Grouping.AllStratified before) (ended : pending.arguments? before = some all) :
    Grouping.AllStratified all := by
  unfold arguments? at ended
  cases completed : pending.complete? with
  | some last =>
    rw [completed] at ended
    cases ended
    exact (Grouping.allStratified_reverse _).mpr ⟨stratified.complete completed, earlier⟩
  | none =>
    simp only [completed] at ended
    split at ended
    · cases ended
      trivial
    · cases ended

end Pending.Stratified

namespace Reader.Stratified

variable {reader next : Reader} {pending : Pending} {opening : Opening}
  {outer : List (Pending × Opening)}

theorem enter (stratified : reader.Stratified) (front : pending.Stratified)
    (opened : opening.Stratified) (same : ∀ frame ∈ outer, frame ∈ reader.outer) :
    (Reader.enter pending opening outer).Stratified := by
  refine ⟨.empty, ?_⟩
  intro frame member
  rcases List.mem_cons.mp member with rfl | inside
  · exact ⟨front, opened⟩
  · exact stratified.outer frame (same frame inside)

theorem leave (stratified : reader.Stratified) (isOpen : reader.outer = (pending, opening) :: outer)
    (operand : Grouping) (inside : operand.Stratified) (tight : Grouping.unaryRank ≤ operand.rank) :
    ({ current := pending.put operand, outer } : Reader).Stratified := by
  have frames := stratified.outer
  rw [isOpen] at frames
  exact ⟨(frames (pending, opening) List.mem_cons_self).1.put inside tight,
    fun frame member => frames frame (List.mem_cons_of_mem _ member)⟩

theorem step (stratified : reader.Stratified) {lexeme : Lexeme}
    (stepped : reader.step? lexeme = some next) : next.Stratified := by
  cases lexeme with
  | operand text =>
    obtain ⟨pending, begun, rfl⟩ := Option.map_eq_some_iff.mp stepped
    exact ⟨(stratified.current.begin begun).put trivial (Nat.le_succ _), stratified.outer⟩
  | operator operator =>
    simp only [Reader.step?] at stepped
    split at stepped
    case h_1 whole completed =>
      cases stepped
      refine ⟨⟨?_, nofun⟩, stratified.outer⟩
      intro left operator isLeft
      cases isLeft
      exact stratified.current.complete completed
    case h_2 =>
      -- With no operand in front of it, only a minus sign can stand here.
      split at stepped
      · cases stepped
        exact ⟨⟨stratified.current.left, stratified.current.operand⟩, stratified.outer⟩
      · cases stepped
  | opening =>
    simp only [Reader.step?] at stepped
    -- Behind a word the parenthesis begins arguments, elsewhere an operand.
    split at stepped
    · cases stepped
      exact stratified.enter stratified.current trivial fun _ => id
    · obtain ⟨pending, begun, rfl⟩ := Option.map_eq_some_iff.mp stepped
      exact stratified.enter (stratified.current.begin begun) trivial fun _ => id
  | openingIndex =>
    simp only [Reader.step?] at stepped
    split at stepped
    · cases stepped
      exact stratified.enter stratified.current trivial fun _ => id
    · cases stepped
  | comma =>
    simp only [Reader.step?] at stepped
    split at stepped
    case h_1 pending method arguments outer argument isOpen completed =>
      cases stepped
      have frame := stratified.outer (pending, .call method arguments) (by simp [isOpen])
      have opened : (Opening.call method (argument :: arguments)).Stratified :=
        ⟨stratified.current.complete completed, frame.2⟩
      apply stratified.enter frame.1 opened
      intro other member
      rw [isOpen]
      exact List.mem_cons_of_mem _ member
    case h_2 => cases stepped
  | closing =>
    simp only [Reader.step?] at stepped
    split at stepped
    case h_1 pending outer isOpen =>
      obtain ⟨inner, completed, rfl⟩ := Option.map_eq_some_iff.mp stepped
      have inside := stratified.current.complete completed
      exact stratified.leave isOpen (.parenthesized inner) inside (Nat.le_succ _)
    case h_2 pending method before outer isOpen =>
      obtain ⟨all, ended, rfl⟩ := Option.map_eq_some_iff.mp stepped
      have earlier := (stratified.outer (pending, .call method before) (by simp [isOpen])).2
      exact stratified.leave isOpen (.call method all)
        (stratified.current.arguments earlier ended) (Nat.le_succ _)
    case h_3 => cases stepped
  | closingIndex =>
    simp only [Reader.step?] at stepped
    split at stepped
    case h_1 pending array outer isOpen =>
      obtain ⟨index, completed, rfl⟩ := Option.map_eq_some_iff.mp stepped
      have inside := stratified.current.complete completed
      exact stratified.leave isOpen (.element array index) inside (Nat.le_succ _)
    case h_2 => cases stepped

theorem run (stratified : reader.Stratified) {lexemes : List Lexeme} {whole : Grouping}
    (ran : reader.run lexemes = some whole) : whole.Stratified := by
  induction lexemes generalizing reader with
  | nil =>
    simp only [Reader.run] at ran
    split at ran
    · exact stratified.current.complete ran
    · cases ran
  | cons lexeme rest ih =>
    simp only [Reader.run] at ran
    split at ran
    case h_1 next stepped => exact ih (stratified.step stepped) ran
    case h_2 => cases ran

end Reader.Stratified

/-- Every reading obeys Java's precedence and associativity. -/
theorem stratified_of_read {text : String} {whole : Grouping} (reads : read text = some whole) :
    whole.Stratified := by
  obtain ⟨lexemes, -, ran⟩ := Option.bind_eq_some_iff.mp reads
  have start : ({ } : Reader).Stratified := ⟨.empty, nofun⟩
  exact start.run ran

end obedience

end Primer.Java
