import Mathlib.Tactic.SplitIfs
import ProjectAudit.Json

/-!
# The grammar of JSON

A value is written as the sequence of its tokens (`Json.tokens`), and `Spells` says which texts a
sequence of tokens may be written as: with any blanks between the tokens, and with any of the
escapes inside a text, surrogate pairs among them.  So `Json.IsWrittenAs` holds for every JSON text
of a value, in whatever layout.  The values have no `null`, and their numbers are natural ones,
which are written without a sign, a fraction or an exponent.
-/

namespace ProjectAudit
namespace Json

/-! ## the tokens of a value -/

inductive Token where
  | openList
  | closeList
  | openRecord
  | closeRecord
  | comma
  | colon
  | bool (value : Bool)
  | number (value : Nat)
  | text (value : String)
  deriving DecidableEq

mutual

def tokens : Json → List Token
  | .bool value => [.bool value]
  | .number value => [.number value]
  | .text value => [.text value]
  | .list [] => [.openList, .closeList]
  | .list (item :: items) => .openList :: (item.tokens ++ itemTokens items ++ [.closeList])
  | .record [] => [.openRecord, .closeRecord]
  | .record ((key, value) :: fields) =>
    .openRecord :: .text key :: .colon :: (value.tokens ++ fieldTokens fields ++ [.closeRecord])

def itemTokens : List Json → List Token
  | [] => []
  | item :: items => .comma :: (item.tokens ++ itemTokens items)

def fieldTokens : List (String × Json) → List Token
  | [] => []
  | (key, value) :: fields =>
    .comma :: .text key :: .colon :: (value.tokens ++ fieldTokens fields)

end

/-! ## words and marks -/

def isGap (c : Char) : Bool := c = ' ' || c = '\t' || c = '\n' || c = '\r'

def mark? : Char → Option Token
  | '[' => some .openList
  | ']' => some .closeList
  | '\x7b' => some .openRecord
  | '\x7d' => some .closeRecord
  | ',' => some .comma
  | ':' => some .colon
  | _ => none

/-- a number has no zeros in front of it -/
def numeral? (word : List Char) : Option Nat :=
  if word.all (·.isDigit) && (word.length = 1 || word.head?.any (· ≠ '0')) then
    some (Nat.ofDigitChars 10 word 0)
  else none

def wordToken? (word : List Char) : Option Token :=
  if word = ['t', 'r', 'u', 'e'] then some (.bool true)
  else if word = ['f', 'a', 'l', 's', 'e'] then some (.bool false)
  else (numeral? word).map .number

/-- a word is not followed by a letter or a digit, which would be part of it -/
def EndsWord (cs : List Char) : Prop := ∀ c ∈ cs.head?, ¬ c.isAlphanum

/-! ## texts -/

/-- the character that stands for another one after a backslash -/
def shortEscape? : Char → Option Char
  | '"' => some '"'
  | '\\' => some '\\'
  | '/' => some '/'
  | 'b' => some '\x08'
  | 'f' => some '\x0c'
  | 'n' => some '\n'
  | 'r' => some '\r'
  | 't' => some '\t'
  | _ => none

def hexDigit? (c : Char) : Option Nat :=
  if '0' ≤ c ∧ c ≤ '9' then some (c.toNat - '0'.toNat)
  else if 'a' ≤ c ∧ c ≤ 'f' then some (c.toNat - 'a'.toNat + 10)
  else if 'A' ≤ c ∧ c ≤ 'F' then some (c.toNat - 'A'.toNat + 10)
  else none

/-- the number with these hexadecimal digits after those of `value` -/
def hexFrom? (value : Nat) : List Char → Option Nat
  | [] => some value
  | c :: cs => (hexDigit? c).bind fun digit => hexFrom? (16 * value + digit) cs

/-- what is written between quotation marks, as code points: an escape is one half of a surrogate
pair if the character is not in the basic plane -/
inductive Quotes : List Char → List Nat → Prop
  | done : Quotes [] []
  | raw {c : Char} {cs : List Char} {units : List Nat} (hc : 0x20 ≤ c.toNat) (hquote : c ≠ '"')
      (hslash : c ≠ '\\') (h : Quotes cs units) : Quotes (c :: cs) (c.toNat :: units)
  | short {e c : Char} {cs : List Char} {units : List Nat} (he : shortEscape? e = some c)
      (h : Quotes cs units) : Quotes ('\\' :: e :: cs) (c.toNat :: units)
  | hex {digits cs : List Char} {unit : Nat} {units : List Nat} (hlength : digits.length = 4)
      (hdigits : hexFrom? 0 digits = some unit) (h : Quotes cs units) :
      Quotes ('\\' :: 'u' :: (digits ++ cs)) (unit :: units)

def isHighSurrogate (unit : Nat) : Bool := 0xd800 ≤ unit && unit < 0xdc00

def isLowSurrogate (unit : Nat) : Bool := 0xdc00 ≤ unit && unit < 0xe000

/-- the characters of a text; half of a pair on its own is not one -/
def charsOf? : List Nat → Option (List Char)
  | [] => some []
  | unit :: units =>
    if isHighSurrogate unit then
      match units with
      | [] => none
      | low :: units =>
        if isLowSurrogate low then
          (charsOf? units).map
            (Char.ofNat (0x10000 + (unit - 0xd800) * 0x400 + (low - 0xdc00)) :: ·)
        else none
    else if isLowSurrogate unit then none
    else (charsOf? units).map (Char.ofNat unit :: ·)

/-! ## texts of tokens and of values -/

inductive Spells : List Char → List Token → Prop
  | done : Spells [] []
  | gap {c : Char} {cs : List Char} {ts : List Token} (hc : isGap c) (h : Spells cs ts) :
      Spells (c :: cs) ts
  | mark {c : Char} {t : Token} {cs : List Char} {ts : List Token} (hc : mark? c = some t)
      (h : Spells cs ts) : Spells (c :: cs) (t :: ts)
  | word {word : List Char} {t : Token} {cs : List Char} {ts : List Token}
      (hword : wordToken? word = some t) (hend : EndsWord cs) (h : Spells cs ts) :
      Spells (word ++ cs) (t :: ts)
  | text {quoted : List Char} {units : List Nat} {text cs : List Char} {ts : List Token}
      (hquoted : Quotes quoted units) (htext : charsOf? units = some text) (h : Spells cs ts) :
      Spells ('"' :: (quoted ++ '"' :: cs)) (.text (.ofList text) :: ts)

/-- the text is JSON for the value -/
def IsWrittenAs (value : Json) (text : String) : Prop := Spells text.toList value.tokens

end Json
end ProjectAudit
