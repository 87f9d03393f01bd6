/-
  Resource queries — tokens of a text.

  * `Token.tokenize`: the tokens of a query with their positions, or the first offence in the
    text.
  * `Token.ofLexemes`: tokens from lexemes.  A word with an operator after it is a field, and
    an operator stands after a word or a quoted text.

  An unknown operator is reported as such, whatever stands before it.
-/
import ResourceQuery.Error
import ResourceQuery.Token.Lexeme

namespace ResourceQuery

namespace Token

/-- The line and the column of the character after `before`, counted from one. -/
def lineColumn (before : Text) : Nat × Nat :=
  (before.count '\n' + 1, (before.reverse.takeWhile (· != '\n')).length + 1)

/-- An error at a lexeme of the text. -/
def lexicalError (text : Text) (cause : ParseError.Cause) (l : Lexeme) : ParseError :=
  let (line, column) := lineColumn (text.takeBytes l.start)
  { cause, text := some l.text, position := some l.start, line := some line,
    column := some column }

/-- A lexeme between its first and its last character. -/
def inside (t : Text) : Text := (t.drop 1).dropLast

/-- The token of a lexeme, where `named` says whether it stands right after a word or a
    quoted text, and `operated` whether an operator stands right after it. -/
def ofLexeme (named operated : Bool) (l : Lexeme) : Except ParseError.Cause Token :=
  match l.kind with
  | .directive => .ok (.directive (Text.lower l.text.dropLast))
  | .operator =>
    match Operator.ofMnemonic? (inside l.text) with
    | none => .error (.unknownOperator (inside l.text))
    | some op => if named then .ok (.operator op) else .error (.noFieldBefore (inside l.text))
  | .separator => .ok .separator
  | .comma => .ok .comma
  | .close => .ok .close
  | .quoted => .ok (.quoted (Quoted.unescape (inside l.text)))
  | .word => .ok (if operated then .field l.text else .bare l.text)
  | .unterminated => .error .unterminatedQuote
  | .stray => .error (.unexpectedCharacter (l.text.headD ' '))

/-- Whether an operator may follow a lexeme of the kind. -/
def isNaming : Lexeme.Kind → Bool
  | .word | .quoted => true
  | _ => false

/-- The tokens of the lexemes of the text. -/
def ofLexemes (text : Text) : Bool → List Lexeme → Except ParseError (List Located)
  | _, [] => .ok []
  | named, l :: ls =>
    match ofLexeme named (ls.head?.any (·.kind == .operator)) l with
    | .error cause => .error (lexicalError text cause l)
    | .ok token => (ofLexemes text (isNaming l.kind) ls).map (⟨token, l.start, l.stop⟩ :: ·)

/-- The tokens of a text. -/
def tokenize (text : Text) : Except ParseError (List Located) :=
  ofLexemes text false (Lexeme.scan 0 text)

end Token

end ResourceQuery
