/-
  Resource queries — the grammar of tokens.

  * `Quoted.Inside`, `Quoted.Unescapes`: what may stand between quotes, and what it stands for.
  * `Lexeme.Fits`: the forms of the nine kinds of lexemes.
  * `Lexeme.Chosen`: the first kind, in the order of `Lexeme.Kind.order`, that fits the front of
    a text counts.
  * `Lexeme.Tiles`: lexemes with gaps between them that take up a text to its end.
  * `Lexeme.Offends`: a lexeme that is no token, and what is wrong with it.
  * `Token.ReadFrom`: the text that a token is written as.
  * `Token.Covers`: tokens that lie apart in a text, in order, with gaps around them.
-/
import ResourceQuery.Token.Tokenizer

namespace ResourceQuery

namespace Text

/-- Whether byte `n` of a text is the beginning of a character or the end of the text. -/
def IsBoundary (t : Text) (n : Nat) : Prop := ∃ a b, t = a ++ b ∧ byteSize a = n

end Text

namespace Quoted

/-- A text that may stand between two quotes: each of its quotes and each of its backslashes
    has a backslash before it. -/
inductive Inside (quote : Char) : Text → Prop
  | nil : Inside quote []
  | plain {c : Char} {s : Text} : c ≠ quote → c ≠ '\\' → Inside quote s → Inside quote (c :: s)
  | escaped {c : Char} {s : Text} : Inside quote s → Inside quote ('\\' :: c :: s)

/-- A text with escapes and the text without them: each backslash is left out, and the
    character after it is kept. -/
inductive Unescapes : Text → Text → Prop
  | nil : Unescapes [] []
  | plain {c : Char} {s t : Text} : c ≠ '\\' → Unescapes s t → Unescapes (c :: s) (c :: t)
  | escaped {c : Char} {s t : Text} : Unescapes s t → Unescapes ('\\' :: c :: s) (c :: t)

end Quoted

namespace Lexeme

/-! ## Forms -/

/-- The kinds of lexemes, those that are tried first in front. -/
def Kind.order : List Kind :=
  [.directive, .operator, .separator, .comma, .close, .quoted, .word, .unterminated, .stray]

/-- Whether a text with `rest` after it has the form of a kind. -/
inductive Fits : Kind → Text → Text → Prop
  | directive {c : Char} {name rest : Text} : isNameStart c → (∀ d ∈ name, isNamePart d) →
      Fits .directive (c :: (name ++ ['('])) rest
  | operator {letters rest : Text} : letters ≠ [] → (∀ c ∈ letters, c.isAlpha) →
      Fits .operator ('=' :: (letters ++ ['='])) rest
  | semicolon {rest : Text} : Fits .separator [';'] rest
  | ampersand {rest : Text} : Fits .separator ['&'] rest
  | comma {rest : Text} : Fits .comma [','] rest
  | close {rest : Text} : Fits .close [')'] rest
  | quoted {quote : Char} {s rest : Text} : isQuote quote → Quoted.Inside quote s →
      Fits .quoted (quote :: (s ++ [quote])) rest
  | word {c : Char} {w rest : Text} : (∀ d ∈ c :: w, isWordChar d) →
      (∀ d ∈ rest.head?, ¬ isWordChar d) → Fits .word (c :: w) rest
  | unterminated {quote : Char} {s : Text} : isQuote quote → Fits .unterminated (quote :: s) []
  | stray {c : Char} {rest : Text} : Fits .stray [c] rest

/-- Whether a lexeme of the kind is read at the front of `s ++ rest`, and takes `s`: no kind
    that is tried before fits. -/
def Chosen (kind : Kind) (s rest : Text) : Prop :=
  Fits kind s rest ∧ ∀ kind' s' rest', s' ++ rest' = s ++ rest → Fits kind' s' rest' →
    Kind.order.idxOf kind ≤ Kind.order.idxOf kind'

/-- Whether lexemes, with gaps before, between and after them, make up a text that starts at
    byte `start`. -/
inductive Tiles : Nat → Text → List Lexeme → Prop
  | nil {start : Nat} : Tiles start [] []
  | gap {start : Nat} {c : Char} {t : Text} {ls : List Lexeme} : Text.isGap c →
      Tiles (start + c.utf8Size) t ls → Tiles start (c :: t) ls
  | lexeme {start : Nat} {kind : Kind} {s rest : Text} {ls : List Lexeme} :
      (∀ c ∈ s.head?, ¬ Text.isGap c) → Chosen kind s rest →
      Tiles (start + Text.byteSize s) rest ls → Tiles start (s ++ rest) (⟨kind, s, start⟩ :: ls)

/-! ## Offences -/

/-- Whether a lexeme with `before` in front of it is no token, and why. -/
inductive Offends (before : List Lexeme) : Lexeme → ParseError.Cause → Prop
  | unterminated {l : Lexeme} : l.kind = .unterminated → Offends before l .unterminatedQuote
  | unknown {l : Lexeme} {letters : Text} : l.kind = .operator →
      l.text = '=' :: (letters ++ ['=']) →
      (∀ op : Operator, op.mnemonic.toList ≠ Text.lower letters) →
      Offends before l (.unknownOperator letters)
  | unnamed {l : Lexeme} {letters : Text} : l.kind = .operator →
      l.text = '=' :: (letters ++ ['=']) →
      (∀ p ∈ before.getLast?, p.kind ≠ .word ∧ p.kind ≠ .quoted) →
      Offends before l (.noFieldBefore letters)
  | stray {l : Lexeme} {c : Char} : l.kind = .stray → l.text = [c] →
      Offends before l (.unexpectedCharacter c)

end Lexeme

namespace Token

open Lexeme

/-! ## Tokens -/

/-- Whether a token is written as the text. -/
inductive ReadFrom : Token → Text → Prop
  | field {w : Text} : (∀ c ∈ w, isWordChar c) → ReadFrom (.field w) w
  | bare {w : Text} : (∀ c ∈ w, isWordChar c) → ReadFrom (.bare w) w
  | operator {op : Operator} {letters : Text} : Text.lower letters = op.mnemonic.toList →
      ReadFrom (.operator op) ('=' :: (letters ++ ['=']))
  | directive {name : Text} : ReadFrom (.directive (Text.lower name)) (name ++ ['('])
  | quoted {quote : Char} {s t : Text} : isQuote quote → Quoted.Inside quote s →
      Quoted.Unescapes s t → ReadFrom (.quoted t) (quote :: (s ++ [quote]))
  | comma : ReadFrom .comma [',']
  | close : ReadFrom .close [')']
  | semicolon : ReadFrom .separator [';']
  | ampersand : ReadFrom .separator ['&']

/-- Whether the tokens are those of the text with nothing lost. -/
structure Covers (text : Text) (ts : List Located) : Prop where
  /-- A token takes up a part of the text, which is not empty and ends between characters. -/
  within : ∀ t ∈ ts, Text.IsBoundary text t.start ∧ Text.IsBoundary text t.stop ∧ t.start < t.stop ∧
    t.stop ≤ Text.byteSize text
  /-- The tokens come in order, and no two overlap. -/
  apart : ts.Pairwise fun t u => t.start < u.start ∧ t.stop ≤ u.start
  /-- A character that is in no token is a gap. -/
  gap : ∀ before c after, text = before ++ c :: after →
    (∀ t ∈ ts, ¬ (t.start ≤ Text.byteSize before ∧ Text.byteSize before < t.stop)) → Text.isGap c
  /-- A token is written as the part of the text that it takes up. -/
  read : ∀ t ∈ ts, t.token.ReadFrom (Text.slice text t.start t.stop)

end Token

end ResourceQuery
