import Linkage.Json.Numeral

/-!
# Reading JSON text

A reader takes a text and gives what it read from the front together with the
rest. It stops at the first problem, of which there are two kinds: the text is
*malformed*, or it is well formed so far and its user *refuses* it.

* `readValue` reads a value and bounds how deeply containers may be nested;
* `skipValue` passes over a value that nobody wants. It has no bound, and it
  does not look at what numerals and escapes stand for.

Loops over the items of a container are bounded by the size of the whole text:
each item takes at least one character.
-/

namespace Linkage.Json

/-- Why reading stops: the text is malformed, or it is refused for a reason. -/
inductive ReadError (ε : Type)
  | malformed
  | refused (why : ε)
  deriving DecidableEq

/-- What comes of reading from the front of a text, and the text after it. -/
abbrev Reader (ε α : Type) := List Char → Except (ReadError ε) (α × List Char)

variable {ε : Type}

/-- A character that may stand between any two tokens. -/
def isGap (c : Char) : Bool := c = ' ' || c = '\n' || c = '\t' || c = '\r'

/-- The text without the gap in front of it. -/
def skipGap (cs : List Char) : List Char := cs.dropWhile isGap

/-- Takes a word from the front of a text. -/
def readWord : List Char → Reader ε Unit
  | [], cs => .ok ((), cs)
  | _ :: _, [] => .error .malformed
  | w :: word, c :: cs => if c = w then readWord word cs else .error .malformed

/-- Takes a mark that may have a gap in front of it. -/
def readMark (mark : Char) (cs : List Char) : Except (ReadError ε) (List Char) :=
  match skipGap cs with
  | [] => .error .malformed
  | c :: rest => if c = mark then .ok rest else .error .malformed

/-! ## Strings -/

/-- The number that four hexadecimal digits stand for. -/
def unit? (a b c d : Char) : Option Nat := Linkage.Numeral.ofHex? [a, b, c, d]

/-- The character that a one-letter escape stands for. -/
def unescape? (c : Char) : Option Char :=
  if c = '"' ∨ c = '\\' ∨ c = '/' then some c
  else if c = 'b' then some '\x08'
  else if c = 'f' then some '\x0c'
  else if c = 'n' then some '\n'
  else if c = 'r' then some '\r'
  else if c = 't' then some '\t'
  else none

/-- The character of a high and a low surrogate. -/
def joinSurrogates (high low : Nat) : Char :=
  Char.ofNat ((high - 0xD800) * 0x400 + (low - 0xDC00) + 0x10000)

/--
Reads a string after its opening quote. Raw controls, unknown escapes, and
surrogates that do not come as a high and a low one are malformed.
-/
def stringFrom (read : List Char) : Reader ε String
  | [] => .error .malformed
  | c :: rest =>
    if c = '"' then .ok (String.ofList read.reverse, rest)
    else if c = '\\' then
      match rest with
      | 'u' :: a :: b :: c :: d :: rest =>
        match unit? a b c d with
        | none => .error .malformed
        | some high =>
          if high < 0xD800 ∨ 0xDFFF < high then stringFrom (Char.ofNat high :: read) rest
          else if 0xDC00 ≤ high then .error .malformed
          else
            match rest with
            | '\\' :: 'u' :: e :: f :: g :: h :: rest =>
              match unit? e f g h with
              | none => .error .malformed
              | some low =>
                if 0xDC00 ≤ low ∧ low ≤ 0xDFFF then
                  stringFrom (joinSurrogates high low :: read) rest
                else .error .malformed
            | _ => .error .malformed
      | e :: rest =>
        match unescape? e with
        | none => .error .malformed
        | some x => stringFrom (x :: read) rest
      | [] => .error .malformed
    else if c.toNat < 0x20 then .error .malformed
    else stringFrom (c :: read) rest

/-- Reads a string after its opening quote. -/
def readString (cs : List Char) : Except (ReadError ε) (String × List Char) := stringFrom [] cs

/-- Passes over a string after its opening quote; any four hexadecimal digits may follow `\u`. -/
def skipString : List Char → Except (ReadError ε) (List Char)
  | [] => .error .malformed
  | c :: rest =>
    if c = '"' then .ok rest
    else if c = '\\' then
      match rest with
      | 'u' :: a :: b :: c :: d :: rest =>
        if (unit? a b c d).isSome then skipString rest else .error .malformed
      | e :: rest => if (unescape? e).isSome then skipString rest else .error .malformed
      | [] => .error .malformed
    else if c.toNat < 0x20 then .error .malformed
    else skipString rest

/-! ## Numerals -/

/-- Reads the fraction of a numeral, if a point stands in front. -/
def readFraction (cs : List Char) : Except (ReadError ε) (Option (List Char) × List Char) :=
  match cs with
  | '.' :: rest =>
    let digits := rest.takeWhile Char.isDigit
    if digits = [] then .error .malformed
    else .ok (some digits, rest.dropWhile Char.isDigit)
  | _ => .ok (none, cs)

/-- Reads the exponent of a numeral, if there is one. -/
def readExponent (cs : List Char) :
    Except (ReadError ε) (Option (Bool × List Char) × List Char) :=
  match cs with
  | c :: rest =>
    if c = 'e' ∨ c = 'E' then
      let (negative, rest) :=
        match rest with
        | '-' :: rest => (true, rest)
        | '+' :: rest => (false, rest)
        | _ => (false, rest)
      let digits := rest.takeWhile Char.isDigit
      if digits = [] then .error .malformed
      else .ok (some (negative, digits), rest.dropWhile Char.isDigit)
    else .ok (none, cs)
  | [] => .ok (none, cs)

/-- Reads a numeral. A whole part of several digits does not start with zero. -/
def readNumeral (cs : List Char) : Except (ReadError ε) (Numeral × List Char) := do
  let (negative, cs) :=
    match cs with
    | '-' :: rest => (true, rest)
    | _ => (false, cs)
  let whole := cs.takeWhile Char.isDigit
  if whole = [] ∨ (whole.head? = some '0' ∧ 1 < whole.length) then .error .malformed
  let (fraction, cs) ← readFraction (cs.dropWhile Char.isDigit)
  let (exponent, cs) ← readExponent cs
  return (⟨negative, whole, fraction, exponent⟩, cs)

/-- Reads a number; one that is too large is malformed. -/
def readNumber (cs : List Char) : Except (ReadError ε) (Json × List Char) := do
  let (numeral, cs) ← readNumeral cs
  match numeral.value? with
  | some v => return (v, cs)
  | none => .error .malformed

/-- A character that a number starts with. -/
def startsNumber (c : Char) : Bool := c = '-' || c.isDigit

/-! ## Containers -/

/-- Where reading a container stands: in front of an item, or behind the closing bracket. -/
inductive Next
  | item (rest : List Char)
  | done (rest : List Char)

/-- Goes to the next item of a container, over the comma in front of all but the first. -/
def nextItem (close : Char) (first : Bool) (cs : List Char) : Except (ReadError ε) Next :=
  match skipGap cs with
  | [] => .error .malformed
  | c :: rest =>
    if c = close then .ok (.done rest)
    else if first then .ok (.item (c :: rest))
    else if c = ',' then .ok (.item (skipGap rest))
    else .error .malformed

/-- Reads the items of a container one by one into a state, at most `bound` of them. -/
def foldItems {σ : Type} (close : Char) (item : σ → Reader ε σ) :
    (bound : Nat) → Bool → σ → Reader ε σ
  | 0, _, _, _ => .error .malformed
  | bound + 1, first, s, cs => do
    match ← nextItem close first cs with
    | .done rest => return (s, rest)
    | .item rest =>
      let (s, rest) ← item s rest
      foldItems close item bound false s rest

/--
Reads the items of a container whose opening bracket has been read, out of a
text of `size` characters.
-/
def readItems {σ : Type} (size : Nat) (close : Char) (item : σ → Reader ε σ) (s : σ)
    (cs : List Char) : Except (ReadError ε) (σ × List Char) :=
  foldItems close item (size + 1) true s cs

/-- Reads the key of a member and the colon behind it. -/
def readKey (cs : List Char) : Except (ReadError ε) (String × List Char) :=
  match cs with
  | '"' :: rest => do
    let (key, rest) ← readString rest
    return (key, ← readMark ':' rest)
  | _ => .error .malformed

/--
Reads a value with at most `levels` containers inside each other, out of a text
of `size` characters.
-/
def readValue (size : Nat) : (levels : Nat) → Reader ε Json
  | levels, cs =>
    match skipGap cs with
    | [] => .error .malformed
    | c :: rest =>
      if c = 'n' then do
        let ((), rest) ← readWord "ull".toList rest
        return (.null, rest)
      else if c = 't' then do
        let ((), rest) ← readWord "rue".toList rest
        return (.bool true, rest)
      else if c = 'f' then do
        let ((), rest) ← readWord "alse".toList rest
        return (.bool false, rest)
      else if c = '"' then do
        let (s, rest) ← readString rest
        return (.str s, rest)
      else if startsNumber c then readNumber (c :: rest)
      else if c = '[' then
        match levels with
        | 0 => .error .malformed
        | levels + 1 => do
          let item := fun (items : List Json) cs => do
            let (v, cs) ← readValue size levels cs
            return (v :: items, cs)
          let (items, rest) ← readItems size ']' item [] rest
          return (.arr items.reverse, rest)
      else if c = '\x7b' then
        match levels with
        | 0 => .error .malformed
        | levels + 1 => do
          let member := fun (members : List (String × Json)) cs => do
            let (key, cs) ← readKey cs
            let (v, cs) ← readValue size levels cs
            return (insert key v members, cs)
          let (members, rest) ← readItems size '\x7d' member [] rest
          return (.obj members, rest)
      else .error .malformed

/-! ## Passing over values -/

/--
Passes over a value that is no container, or over the bracket that opens one; the
bracket that will close it is given then.
-/
def skipStart : Reader ε (Option Char) := fun cs =>
  match skipGap cs with
  | [] => .error .malformed
  | c :: rest =>
    let plain := fun rest => (none, rest)
    if c = 'n' then (fun r => plain r.2) <$> readWord "ull".toList rest
    else if c = 't' then (fun r => plain r.2) <$> readWord "rue".toList rest
    else if c = 'f' then (fun r => plain r.2) <$> readWord "alse".toList rest
    else if c = '"' then plain <$> skipString rest
    else if startsNumber c then (fun r => plain r.2) <$> readNumeral (c :: rest)
    else if c = '[' then .ok (some ']', rest)
    else if c = '\x7b' then .ok (some '\x7d', rest)
    else .error .malformed

/-- Passes over the key of a member and the colon behind it. -/
def skipKey (cs : List Char) : Except (ReadError ε) (List Char) :=
  match cs with
  | '"' :: rest => do readMark ':' (← skipString rest)
  | _ => .error .malformed

/--
Passes over the rest of the containers that are open, of which the brackets that
close them are given, the innermost first. Each of at most `bound` steps goes to
the next item of the innermost one, or closes it.
-/
def skipOpen : (bound : Nat) → (closes : List Char) → (first : Bool) → List Char →
    Except (ReadError ε) (List Char)
  | _, [], _, cs => .ok cs
  | 0, _ :: _, _, _ => .error .malformed
  | bound + 1, close :: closes, first, cs => do
    match ← nextItem close first cs with
    | .done rest => skipOpen bound closes false rest
    | .item rest =>
      let rest ← if close = '\x7d' then skipKey rest else pure rest
      match ← skipStart rest with
      | (some inner, rest) => skipOpen bound (inner :: close :: closes) true rest
      | (none, rest) => skipOpen bound (close :: closes) false rest

/-- Passes over a value, out of a text of `size` characters. -/
def skipValue (size : Nat) (cs : List Char) : Except (ReadError ε) (List Char) := do
  let (close, rest) ← skipStart cs
  skipOpen size close.toList true rest

/-! ## Whole texts -/

/-- How deeply containers may be nested in a text. -/
def maxDepth : Nat := 127

/-- Nothing but a gap may follow what was read. -/
def endOfText {α : Type} (r : α × List Char) : Except (ReadError ε) α :=
  match skipGap r.2 with
  | [] => .ok r.1
  | _ :: _ => .error .malformed

/-- The value that a text holds; none if the text is malformed. -/
def parse? (s : String) : Option Json :=
  ((readValue s.length maxDepth s.toList >>= endOfText : Except (ReadError Empty) Json)).toOption

end Linkage.Json
