/-!
# Octet strings and the text in them

File names and variable values are octet strings, and most of them are meant as
text. Read as UTF-8, an octet string falls into *chunks*: characters, and runs
of octets that begin a character and never finish it. A run is as long as it can
be: it stops in front of the first octet that cannot continue the character.

* `Utf8.encode` writes text as octets;
* `Utf8.text?` reads it back, and refuses an octet string with a broken run;
* `Utf8.lossy` reads anything, with one U+FFFD for each broken run.
-/

namespace Linkage

/-- A string of octets, such as a file name or the value of a variable. -/
abbrev Bytes := List UInt8

namespace Utf8

/-- A piece of an octet string: a whole character, or a run that breaks off inside one. -/
inductive Chunk
  | char (c : Char)
  | broken (octets : Bytes)
  deriving DecidableEq

/-- The character of a chunk, if it holds one. -/
def Chunk.char? : Chunk → Option Char
  | .char c => some c
  | .broken _ => none

/-- A character that has begun: what was read of it, and what may come next. -/
structure Begun where
  /-- The octets read so far. -/
  octets : Bytes
  /-- The bits of the code point they carry. -/
  code : Nat
  /-- How many octets must follow the next one. -/
  more : Nat
  /-- The least octet that may come next. -/
  low : UInt8
  /-- The greatest octet that may come next. -/
  high : UInt8

/--
What an octet in front of a character means: a whole character, the start of a
longer one, or nothing that a character starts with.

The second octet is restricted where the shortest form or the surrogate range
would be violated otherwise, so that a run breaks as early as it can.
-/
def first (b : UInt8) : Chunk ⊕ Begun :=
  if b < 0x80 then .inl (.char (Char.ofNat b.toNat))
  else if b < 0xC2 then .inl (.broken [b])
  else if b < 0xE0 then .inr ⟨[b], b.toNat - 0xC0, 0, 0x80, 0xBF⟩
  else if b = 0xE0 then .inr ⟨[b], 0, 1, 0xA0, 0xBF⟩
  else if b = 0xED then .inr ⟨[b], 0xD, 1, 0x80, 0x9F⟩
  else if b < 0xF0 then .inr ⟨[b], b.toNat - 0xE0, 1, 0x80, 0xBF⟩
  else if b = 0xF0 then .inr ⟨[b], 0, 2, 0x90, 0xBF⟩
  else if b < 0xF4 then .inr ⟨[b], b.toNat - 0xF0, 2, 0x80, 0xBF⟩
  else if b = 0xF4 then .inr ⟨[b], 4, 2, 0x80, 0x8F⟩
  else .inl (.broken [b])

/-- The character after its next octet, which lies between `low` and `high`. -/
def Begun.extend (p : Begun) (b : UInt8) : Char ⊕ Begun :=
  let code := p.code * 64 + (b.toNat - 0x80)
  match p.more with
  | 0 => .inl (Char.ofNat code)
  | n + 1 => .inr ⟨p.octets ++ [b], code, n, 0x80, 0xBF⟩

/-- The chunks of an octet string, given the character begun in front of it. -/
def chunksFrom : Option Begun → Bytes → List Chunk
  | none, [] => []
  | some p, [] => [.broken p.octets]
  | none, b :: rest =>
    match first b with
    | .inl c => c :: chunksFrom none rest
    | .inr p => chunksFrom (some p) rest
  | some p, b :: rest =>
    if p.low ≤ b ∧ b ≤ p.high then
      match p.extend b with
      | .inl c => .char c :: chunksFrom none rest
      | .inr q => chunksFrom (some q) rest
    else
      .broken p.octets ::
        match first b with
        | .inl c => c :: chunksFrom none rest
        | .inr q => chunksFrom (some q) rest

/-- The chunks of an octet string. -/
def chunks (b : Bytes) : List Chunk := chunksFrom none b

/-- The octets of a text. -/
def encode (s : String) : Bytes := s.toList.flatMap String.utf8EncodeChar

/-- The text of an octet string, if every chunk is a character. -/
def text? (b : Bytes) : Option String := ((chunks b).mapM Chunk.char?).map String.ofList

/-- The text of an octet string, with U+FFFD in place of each broken run. -/
def lossy (b : Bytes) : String :=
  String.ofList ((chunks b).map fun c => c.char?.getD '\uFFFD')

end Utf8

end Linkage
