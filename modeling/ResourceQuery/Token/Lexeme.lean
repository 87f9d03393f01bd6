/-
  Resource queries — lexemes.

  * `Lexeme`: a stretch of a query that is read as one, its kind, and where it starts.
  * `Lexeme.classify`: the kind of the lexeme at the front of a text and its length.  The
    first that fits counts of: a directive, an operator, a punctuation mark, a quoted text, a
    word; an opened quote takes the rest of the text, and any other character stands alone.
  * `Lexeme.scan`: a text as its lexemes.  Every character is part of a lexeme or a gap
    between two, so this never fails; what is no token is refused later.
-/
import ResourceQuery.Text.Blank
import ResourceQuery.Text.Quoted

namespace ResourceQuery

/-- The kinds of lexemes. -/
inductive Lexeme.Kind where
  /-- A name with an opening parenthesis right after it. -/
  | directive
  /-- Letters between two equals signs. -/
  | operator
  | separator
  | comma
  | close
  /-- A text between quotes, with them. -/
  | quoted
  | word
  /-- A quote without a partner, and everything after it. -/
  | unterminated
  /-- A character that starts nothing. -/
  | stray
deriving DecidableEq

/-- A stretch of a query that is read as one, from byte `start` on. -/
structure Lexeme where
  kind : Lexeme.Kind
  text : Text
  start : Nat
deriving DecidableEq

namespace Lexeme

/-- The byte after the last one of the lexeme. -/
def stop (l : Lexeme) : Nat := l.start + l.text.byteSize

/-! ## Characters -/

/-- The first character of the name of a directive. -/
def isNameStart (c : Char) : Bool := c.isAlpha || c == '_'

/-- A further character of the name of a directive. -/
def isNamePart (c : Char) : Bool := c.isAlphanum || c == '_'

/-- A mark that opens a quoted text and closes it again. -/
def isQuote (c : Char) : Bool := c == '"' || c == '\''

/-- The characters of words: all but gaps, punctuation, equals signs and quotes. -/
def isWordChar (c : Char) : Bool :=
  !(Text.isGap c || [';', '&', ',', '(', ')', '='].contains c || isQuote c)

/-! ## Scanning -/

/-- How many characters after `first` belong to a directive, if one starts there: the rest of
    the name and the parenthesis. -/
def directiveTail? (first : Char) (t : Text) : Option Nat :=
  let name := t.takeWhile isNamePart
  if isNameStart first && (t.dropWhile isNamePart).head? == some '(' then some (name.length + 1)
  else none

/-- How many characters after `first` belong to an operator, if one starts there: letters and
    the second equals sign. -/
def operatorTail? (first : Char) (t : Text) : Option Nat :=
  let letters := t.takeWhile Char.isAlpha
  if first == '=' && !letters.isEmpty && (t.dropWhile Char.isAlpha).head? == some '=' then
    some (letters.length + 1)
  else none

/-- The kind of the lexeme that starts with `first`, and how many characters of the text
    after it belong to it. -/
def classify (first : Char) (t : Text) : Kind × Nat :=
  match directiveTail? first t, operatorTail? first t with
  | some n, _ => (.directive, n)
  | none, some n => (.operator, n)
  | none, none =>
    if first == ';' || first == '&' then (.separator, 0)
    else if first == ',' then (.comma, 0)
    else if first == ')' then (.close, 0)
    else if isQuote first then
      match Quoted.closing? first t with
      | some n => (.quoted, n)
      | none => (.unterminated, t.length)
    else if isWordChar first then (.word, (t.takeWhile isWordChar).length)
    else (.stray, 0)

/-- The lexemes of a text that starts at byte `start`. -/
def scan (start : Nat) : Text → List Lexeme
  | [] => []
  | c :: t =>
    if Text.isGap c then scan (start + c.utf8Size) t
    else
      let (kind, n) := classify c t
      let text : Text := c :: t.take n
      ⟨kind, text, start⟩ :: scan (start + Text.byteSize text) (t.drop n)
termination_by t => t.length
decreasing_by all_goals simp only [List.length_cons, List.length_drop]; omega

end Lexeme

end ResourceQuery
