/-
  Resource queries — reading queries.

  * `Query.parse`: the query that a text asks for, within the limits of the settings.
  * `Query.readClause`: what one clause adds to a query.

  The clauses, separated by `;` or `&`, are read from left to right:

      clause    := criterion | directive
      criterion := field operator [value ("," value)*]
      directive := "select(" field ("," field)* ")"
                 | "sort(" ["+" | "-"] field ("," ["+" | "-"] field)* ")"
                 | "limit(" count ["," offset] ")"

  The next token always decides how to go on.  A reader takes the tokens that are left of its
  clause and gives what they say and the tokens after it.
-/
import ResourceQuery.Query.Basic
import ResourceQuery.Query.Clause
import ResourceQuery.Settings.Basic
import ResourceQuery.Token.Tokenizer

namespace ResourceQuery.Query

/-! ## Criteria -/

/-- The literal that a token denotes. -/
def literal? : Token → Option Literal
  | .quoted t => some (.ofQuoted t)
  | .bare w => some (.ofWord w)
  | _ => none

/-- The error where a value should stand. -/
def noValue (c : Clause) : List Located → ParseError
  | t :: _ => .located (.notAValue t.token) t.start
  | [] => .located (if c.separated then .notAValue .separator else .missingValue) c.stop

/-- Reads one value. -/
def readValue (c : Clause) : List Located → Except ParseError (Literal × List Located)
  | [] => .error (noValue c [])
  | t :: ts =>
    match literal? t.token with
    | some l => .ok (l, ts)
    | none => .error (noValue c (t :: ts))

/-- Reads further values, each after a comma, when `taken` of them are read already. -/
def readMoreValues (limit : Nat) (target : Target) (c : Clause) (taken : Nat) :
    List Located → Except ParseError (List Literal × List Located)
  | ⟨.comma, _, _⟩ :: t :: ts =>
    match literal? t.token with
    | none => .error (noValue c (t :: ts))
    | some l =>
      if limit < taken + 1 then
        .error (.located (.tooManyValues limit target.text) (c.position ts))
      else (readMoreValues limit target c (taken + 1) ts).map fun (ls, rest) => (l :: ls, rest)
  | [⟨.comma, _, _⟩] => .error (noValue c [])
  | ts => .ok ([], ts)

/-- Reads the values of an operator. -/
def readValues (limit : Nat) (target : Target) (op : Operator) (c : Clause)
    (ts : List Located) : Except ParseError (List Literal × List Located) :=
  if op.arity = .zero then
    match ts with
    | t :: _ =>
      if (literal? t.token).isSome then .error (.located (.takesNoValue op) t.start)
      else .ok ([], ts)
    | [] => .ok ([], ts)
  else do
    let (l, ts) ← readValue c ts
    let (ls, ts) ← readMoreValues limit target c 1 ts
    return (l :: ls, ts)

/-- Reads a criterion on the target, from its operator on. -/
def readCriterion (limit : Nat) (target : Target) (c : Clause) :
    List Located → Except ParseError (Criterion × List Located)
  | ⟨.operator op, _, _⟩ :: ts => do
    let (literals, ts) ← readValues limit target op c ts
    match Criterion.make target op literals with
    | .ok criterion => return (criterion, ts)
    | .error e => .error (e.atPosition (c.position ts))
  | _ => .error { cause := .missingOperator target.text }

/-! ## Directives -/

/-- A word among the arguments of a directive and its position. -/
abbrev Argument := Text × Nat

/-- The word that a token is. -/
def word? : Token → Option Text
  | .bare w | .field w => some w
  | _ => none

/-- The error at the end of the clause where a directive goes on. -/
def unclosed (name : Text) (c : Clause) (cause : Token → ParseError.Cause) : ParseError :=
  .located (if c.separated then cause .separator else .unclosedDirective name) c.stop

/-- The error where an argument should stand, `first` telling whether it is the first. -/
def noArgument (name : Text) (first : Bool) (t : Located) : ParseError :=
  .located (if first && t.token == .close then .emptyDirective name
    else .notAnArgument name t.token) t.start

/-- Reads arguments with commas between them up to the closing parenthesis. -/
def readArguments (name : Text) (c : Clause) (first : Bool) :
    List Located → Except ParseError (List Argument × List Located)
  | [] => .error (unclosed name c (.notAnArgument name))
  | [t] =>
    match word? t.token with
    | some _ => .error (unclosed name c (.notAComma name))
    | none => .error (noArgument name first t)
  | t :: t' :: ts =>
    match word? t.token with
    | none => .error (noArgument name first t)
    | some w =>
      match t'.token with
      | .comma =>
        (readArguments name c false ts).map fun (as, rest) => ((w, t.start) :: as, rest)
      | .close => .ok ([(w, t.start)], ts)
      | found => .error (.located (.notAComma name found) t'.start)

/-- The target that an argument names. -/
def argumentTarget (a : Argument) : Except ParseError Target :=
  match Target.read a.1 with
  | .ok target => .ok target
  | .error e => .error (e.atPosition a.2)

/-- The sort key that an argument names; a minus sign makes it descending. -/
def argumentKey : Argument → Except ParseError SortKey
  | ('-' :: w, position) => (argumentTarget (w, position)).map (⟨·, .descending⟩)
  | ('+' :: w, position) => (argumentTarget (w, position)).map (⟨·, .ascending⟩)
  | a => (argumentTarget a).map (⟨·, .ascending⟩)

/-- The count that an argument denotes. -/
def argumentCount (a : Argument) : Except ParseError UInt64 :=
  match Numeral.readUInt64? a.1 with
  | some n => .ok n
  | none => .error (.located (.invalidCount a.1) a.2)

/-- Reads the arguments of a directive, unless there has been one of its name. -/
def readOnce (name : Text) (start : Nat) (present : Bool) (c : Clause) (ts : List Located) :
    Except ParseError (List Argument × List Located) :=
  if present then .error (.located (.duplicateDirective name) start)
  else readArguments name c true ts

/-- Reads a directive from its arguments on, and adds it to the query. -/
def readDirective (q : Query) (name : Text) (start : Nat) (c : Clause) (ts : List Located) :
    Except ParseError (Query × List Located) :=
  if name = "select".toList then do
    let (as, ts) ← readOnce name start q.hasProjection c ts
    return ({ q with projection := ← as.mapM argumentTarget }, ts)
  else if name = "sort".toList then do
    let (as, ts) ← readOnce name start q.hasSort c ts
    return ({ q with sort := ← as.mapM argumentKey }, ts)
  else if name = "limit".toList then do
    let (as, ts) ← readOnce name start q.page.isSome c ts
    match ← as.mapM argumentCount with
    | [limit] => return ({ q with page := some ⟨limit, 0⟩ }, ts)
    | [limit, offset] => return ({ q with page := some ⟨limit, offset⟩ }, ts)
    | _ => .error (.located .wrongLimitArguments start)
  else .error (.located (.unknownDirective name) start)

/-! ## Clauses -/

/-- Reads the front of a clause and adds it to the query. -/
def readFront (maxValues : Nat) (q : Query) (c : Clause) :
    List Located → Except ParseError (Query × List Located)
  | [] => .error { cause := .unexpectedEnd }
  | t :: ts =>
    match t.token with
    | .field path => do
      let target ← argumentTarget (path, t.start)
      let (criterion, ts) ← readCriterion maxValues target c ts
      return (q.addCriterion criterion, ts)
    | .directive name => readDirective q name t.start c ts
    | .quoted _ => .error (.located .quotedFieldName t.start)
    | found => .error (.located (.notAClause found) t.start)

/-- Adds a clause to the query; nothing may be left of it. -/
def readClause (maxValues : Nat) (q : Query) (c : Clause) : Except ParseError Query := do
  match ← readFront maxValues q c c.tokens with
  | (q, []) => return q
  | (_, t :: _) => .error (.located (.notASeparator t.token) t.start)

/-- Adds the clauses of the text, numbered from `index` on, to the query. -/
def readClauses (settings : Settings) (text : Text) (index : Nat) (q : Query) :
    List Clause → Except ParseError Query
  | [] => .ok q
  | c :: cs =>
    if settings.maxClauses ≤ index then
      .error (.located (.tooManyClauses settings.maxClauses) (c.position c.tokens))
    else match readClause settings.maxValues q c with
      | .error e => .error (e.inClause index (c.text text))
      | .ok q => readClauses settings text (index + 1) q cs

/-- The query that a text asks for. -/
def parse (settings : Settings) (text : Text) : Except ParseError Query :=
  if settings.maxLength < text.byteSize then
    .error { cause := .tooLong text.byteSize settings.maxLength }
  else if (Text.trim text).isEmpty then .ok .empty
  else do
    let tokens ← Token.tokenize text
    readClauses settings text 0 .empty (Clause.ofTokens text.byteSize tokens)

end ResourceQuery.Query
