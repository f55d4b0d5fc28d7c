/-!
# UTF-8

`decode` reads bytes as UTF-8, or says where the first fault lies.  A sequence is at fault as soon
as its bytes so far begin no character; where the bytes run out inside a sequence that could still
become a character, the text is incomplete.
-/

namespace RuleLexer.Text

/-- Why bytes are no UTF-8 text.  Indices count bytes from the start. -/
inductive EncodingFault where
  /-- The `length` bytes from `index` on begin no character. -/
  | invalid (length index : Nat)
  /-- The bytes end inside the character that begins at `index`. -/
  | incomplete (index : Nat)
deriving DecidableEq, Repr

namespace EncodingFault

/-- The fault in words. -/
def message : EncodingFault → String
  | invalid length index =>
    "invalid utf-8 sequence of " ++ toString length ++ " bytes from index " ++ toString index
  | incomplete index => "incomplete utf-8 byte sequence from index " ++ toString index

end EncodingFault

/-- How many bytes the character has that begins with a byte, by that byte. -/
def sequenceLength (b : UInt8) : Nat :=
  if b < 0x80 then 1
  else if 0xC2 ≤ b ∧ b ≤ 0xDF then 2
  else if 0xE0 ≤ b ∧ b ≤ 0xEF then 3
  else if 0xF0 ≤ b ∧ b ≤ 0xF4 then 4
  else 0

/-- Whether a byte continues a character. -/
def isContinuation (b : UInt8) : Bool :=
  0x80 ≤ b && b ≤ 0xBF

/-- Whether `c` may follow `b`, the first byte of a character of three or four bytes: no form
longer than needed, no surrogate, nothing past the last code point. -/
def maySecond (b c : UInt8) : Bool :=
  isContinuation c && (b != 0xE0 || 0xA0 ≤ c) && (b != 0xED || c ≤ 0x9F)
    && (b != 0xF0 || 0x90 ≤ c) && (b != 0xF4 || c ≤ 0x8F)

/-- The character that the low bits of a first byte and of the bytes after it make up. -/
def assemble (first : Nat) (rest : List UInt8) : Char :=
  Char.ofNat (rest.foldl (fun n b => n * 64 + b.toNat % 64) first)

/-- Reads bytes as UTF-8; `index` is the index of the first of them. -/
def decodeFrom (index : Nat) : List UInt8 → Except EncodingFault (List Char)
  | [] => .ok []
  | b :: bs =>
    match sequenceLength b with
    | 1 => (decodeFrom (index + 1) bs).map (Char.ofNat b.toNat :: ·)
    | 2 =>
      match bs with
      | [] => .error (.incomplete index)
      | c :: bs =>
        if !isContinuation c then .error (.invalid 1 index)
        else (decodeFrom (index + 2) bs).map (assemble (b.toNat % 32) [c] :: ·)
    | 3 =>
      match bs with
      | [] => .error (.incomplete index)
      | c :: bs =>
        if !maySecond b c then .error (.invalid 1 index)
        else
          match bs with
          | [] => .error (.incomplete index)
          | d :: bs =>
            if !isContinuation d then .error (.invalid 2 index)
            else (decodeFrom (index + 3) bs).map (assemble (b.toNat % 16) [c, d] :: ·)
    | 4 =>
      match bs with
      | [] => .error (.incomplete index)
      | c :: bs =>
        if !maySecond b c then .error (.invalid 1 index)
        else
          match bs with
          | [] => .error (.incomplete index)
          | d :: bs =>
            if !isContinuation d then .error (.invalid 2 index)
            else
              match bs with
              | [] => .error (.incomplete index)
              | e :: bs =>
                if !isContinuation e then .error (.invalid 3 index)
                else (decodeFrom (index + 4) bs).map (assemble (b.toNat % 8) [c, d, e] :: ·)
    | _ => .error (.invalid 1 index)

/-- Reads bytes as UTF-8 text. -/
def decode (bytes : List UInt8) : Except EncodingFault (List Char) :=
  decodeFrom 0 bytes

end RuleLexer.Text
