/-
  Resource queries — the grammar of clauses.

  * `Separated`: tokens with commas between them, and what they denote one by one.
  * `Statement`: what one clause says: a criterion, the columns, the sort keys or the page.
  * `Statement.Written`: how a statement is written as the tokens of a clause.
  * `Query.ofStatements`: the query of the statements of its clauses.

  Reading takes the tokens of a clause for a statement exactly when the statement is written
  with them; positions play no part in it.
-/
import ResourceQuery.Query.Basic
import ResourceQuery.Token.Basic

namespace ResourceQuery

/-- One token or several with commas between them, where `Denotes` says what each token but
    the commas stands for. -/
inductive Separated {α : Type} (Denotes : Token → α → Prop) : List Token → List α → Prop
  | one {t : Token} {a : α} : Denotes t a → Separated Denotes [t] [a]
  | more {t : Token} {a : α} {ts : List Token} {as : List α} :
      Denotes t a → Separated Denotes ts as → Separated Denotes (t :: .comma :: ts) (a :: as)

/-! ## What tokens denote -/

/-- The literals that tokens denote. -/
inductive Literal.Written : Token → Literal → Prop
  | quoted (t : Text) : Written (.quoted t) (.ofQuoted t)
  | bare (w : Text) : Written (.bare w) (.ofWord w)

/-- The targets that the arguments of a directive denote. -/
inductive Target.Written : Token → Target → Prop
  | bare {w : Text} {target : Target} : Target.read w = .ok target → Written (.bare w) target

/-- The sort keys that the arguments of a directive denote; a sign stands before the target. -/
inductive SortKey.Written : Token → SortKey → Prop
  | unsigned {w : Text} {target : Target} : w.head? ≠ some '+' → w.head? ≠ some '-' →
      Target.read w = .ok target → Written (.bare w) ⟨target, .ascending⟩
  | plus {w : Text} {target : Target} :
      Target.read w = .ok target → Written (.bare ('+' :: w)) ⟨target, .ascending⟩
  | minus {w : Text} {target : Target} :
      Target.read w = .ok target → Written (.bare ('-' :: w)) ⟨target, .descending⟩

/-- The counts that the arguments of a directive denote. -/
inductive Page.CountWritten : Token → UInt64 → Prop
  | bare {w : Text} {n : UInt64} : Numeral.readUInt64? w = some n → CountWritten (.bare w) n

/-! ## Clauses -/

/-- What one clause says. -/
inductive Statement where
  | criterion (c : Criterion)
  | columns (targets : List Target)
  | sort (keys : List SortKey)
  | page (p : Page)

namespace Statement

/-- The tokens with which a statement is written. -/
inductive Written : List Token → Statement → Prop
  | unary {path : Text} {c : Criterion} : Target.read path = .ok c.target →
      c.operator.arity = .zero → Written [.field path, .operator c.operator] (.criterion c)
  | compared {path : Text} {c : Criterion} {ts : List Token} :
      Target.read path = .ok c.target → c.operator.arity ≠ .zero →
      Separated Literal.Written ts c.literals →
      Written (.field path :: .operator c.operator :: ts) (.criterion c)
  | columns {ts : List Token} {targets : List Target} :
      Separated Target.Written ts targets →
      Written (.directive "select".toList :: ts ++ [.close]) (.columns targets)
  | sort {ts : List Token} {keys : List SortKey} :
      Separated SortKey.Written ts keys →
      Written (.directive "sort".toList :: ts ++ [.close]) (.sort keys)
  | limit {ts : List Token} {n : UInt64} :
      Separated Page.CountWritten ts [n] →
      Written (.directive "limit".toList :: ts ++ [.close]) (.page ⟨n, 0⟩)
  | limitOffset {ts : List Token} {n offset : UInt64} :
      Separated Page.CountWritten ts [n, offset] →
      Written (.directive "limit".toList :: ts ++ [.close]) (.page ⟨n, offset⟩)

/-- The criterion of a statement. -/
def criterion? : Statement → Option Criterion
  | criterion c => some c
  | _ => none

/-- The columns of a statement. -/
def columns? : Statement → Option (List Target)
  | columns targets => some targets
  | _ => none

/-- The sort keys of a statement. -/
def keys? : Statement → Option (List SortKey)
  | sort keys => some keys
  | _ => none

/-- The page of a statement. -/
def page? : Statement → Option Page
  | page p => some p
  | _ => none

/-- Whether no two statements name the columns, the sort keys or the page. -/
def Unrepeated (statements : List Statement) : Prop :=
  (statements.filterMap columns?).length ≤ 1 ∧ (statements.filterMap keys?).length ≤ 1 ∧
    (statements.filterMap page?).length ≤ 1

end Statement

/-- The query of the statements of its clauses: the criteria in order, and the columns, the
    sort keys and the page where a statement names them. -/
def Query.ofStatements (statements : List Statement) : Query where
  projection := ((statements.filterMap Statement.columns?).head?).getD []
  criteria := statements.filterMap Statement.criterion?
  sort := ((statements.filterMap Statement.keys?).head?).getD []
  page := (statements.filterMap Statement.page?).head?

end ResourceQuery
