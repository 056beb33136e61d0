import TypedGraphQL.Json.Value

/-!
# Tokens of JSON text

JSON text arrives as bytes, and not necessarily as JSON.  This module takes one token at a time
from the front of the bytes.

## What is here

* `Flaw` — what is wrong with text: it ends too soon, or it is malformed.
* `Damage` — the flaw of a broken token.  Text that is only skipped is looked at less closely than
  text that is read, so the two can see different flaws.
* `Token` — the tokens.  A number or string is `none` if it is well formed but cannot be read: a
  number beyond all doubles, a string that is not Unicode.
* `scanString`, `scanNumber`, `scanWord` — the tokens that are longer than one byte.
* `nextToken?` — the first token and the bytes behind it, which are fewer (`nextToken?_shorter`).
-/

set_option autoImplicit false

namespace TypedGraphQL.Json

/-- A sequence of bytes. -/
abbrev Bytes := List UInt8

/-- The bytes of a string. -/
def bytesOf (s : String) : Bytes :=
  s.toList.flatMap String.utf8EncodeChar

/-- What is wrong with text. -/
inductive Flaw
  | endsEarly
  | malformed
  deriving DecidableEq, Repr

/-- The flaw of a broken token, for one who reads it and for one who skips it. -/
structure Damage where
  whenRead : Flaw
  whenSkipped : Flaw
  deriving DecidableEq, Repr

/-- Damage that every look at the text finds. -/
def Damage.plain (f : Flaw) : Damage := ⟨f, f⟩

/-- A token. -/
inductive Token
  | openArray
  | closeArray
  | openObject
  | closeObject
  | comma
  | colon
  | null
  | bool (b : Bool)
  | number (n : Option Number)
  | str (s : Option String)
  | brokenStr (d : Damage)
  | broken (d : Damage)
  deriving DecidableEq, Repr

/-! ## Bytes -/

/-- Blanks between tokens. -/
def isBlank (b : UInt8) : Bool :=
  b == 0x20 || b == 0x0a || b == 0x0d || b == 0x09

/-- The byte is a decimal digit. -/
def isDigit (b : UInt8) : Bool :=
  0x30 ≤ b && b ≤ 0x39

/-- The value of a decimal digit. -/
def digitValue (b : UInt8) : Nat :=
  b.toNat - 0x30

/-- The value of a hexadecimal digit. -/
def hexValue? (b : UInt8) : Option Nat :=
  if 0x30 ≤ b && b ≤ 0x39 then some (b.toNat - 0x30)
  else if 0x41 ≤ b && b ≤ 0x46 then some (b.toNat - 0x41 + 10)
  else if 0x61 ≤ b && b ≤ 0x66 then some (b.toNat - 0x61 + 10)
  else none

/-- The value of four hexadecimal digits. -/
def hexValue4? (a b c d : UInt8) : Option Nat := do
  let a ← hexValue? a
  let b ← hexValue? b
  let c ← hexValue? c
  let d ← hexValue? d
  return ((a * 16 + b) * 16 + c) * 16 + d

/-- The text that the bytes spell, if they are UTF-8. -/
def decodeUtf8? (bytes : Bytes) : Option String :=
  String.fromUTF8? ⟨bytes.toArray⟩

/-! ## Strings -/

/-- What a single letter after a backslash stands for. -/
def letterEscape? (b : UInt8) : Option UInt8 :=
  match b with
  | 0x22 => some 0x22
  | 0x5c => some 0x5c
  | 0x2f => some 0x2f
  | 0x62 => some 0x08
  | 0x66 => some 0x0c
  | 0x6e => some 0x0a
  | 0x72 => some 0x0d
  | 0x74 => some 0x09
  | _ => none

/-- The number is the first half of a surrogate pair. -/
def isLeadingSurrogate (n : Nat) : Bool := 0xd800 ≤ n && n < 0xdc00

/-- The number is the second half of a surrogate pair. -/
def isTrailingSurrogate (n : Nat) : Bool := 0xdc00 ≤ n && n < 0xe000

/-- The character of a surrogate pair. -/
def pairedChar (lead trail : Nat) : Char :=
  Char.ofNat (0x10000 + (lead - 0xd800) * 0x400 + (trail - 0xdc00))

/-- How far a string has been read.  Bytes are kept last byte first. -/
inductive StringState
  | text (bytes : Bytes)
  /-- The last thing read was the first half of a surrogate pair. -/
  | half (lead : Nat) (bytes : Bytes)
  /-- Half a surrogate pair stood alone: there is no text. -/
  | lost

namespace StringState

/-- The next byte of the text. -/
def byte (b : UInt8) : StringState → StringState
  | text bytes => text (b :: bytes)
  | _ => lost

/-- The next code unit, given by its number. -/
def codeUnit (n : Nat) : StringState → StringState
  | text bytes =>
    if isTrailingSurrogate n then lost
    else if isLeadingSurrogate n then half n bytes
    else text ((String.utf8EncodeChar (Char.ofNat n)).reverse ++ bytes)
  | half lead bytes =>
    if isTrailingSurrogate n then
      text ((String.utf8EncodeChar (pairedChar lead n)).reverse ++ bytes)
    else lost
  | lost => lost

/-- The text, if it is Unicode. -/
def done? : StringState → Option String
  | text bytes => decodeUtf8? bytes.reverse
  | _ => none

/-- The damage of a string that ends too soon.  If the text was lost, a reader stopped before. -/
def cut : StringState → Damage
  | lost => ⟨.malformed, .endsEarly⟩
  | _ => .plain .endsEarly

end StringState

/-- The end of a string: its text (`none` if it is not Unicode) and the bytes behind it. -/
inductive StringScan
  | closed (text : Option String) (rest : Bytes)
  | broken (d : Damage)

/-- Scans a string behind its opening quote. -/
def scanString (state : StringState) : Bytes → StringScan
  | [] => .broken state.cut
  | b :: rest =>
    if b = 0x22 then .closed state.done? rest
    else if b = 0x5c then
      match rest with
      | [] => .broken state.cut
      | e :: rest =>
        if e = 0x75 then
          match rest with
          | h₁ :: h₂ :: h₃ :: h₄ :: rest =>
            match hexValue4? h₁ h₂ h₃ h₄ with
            | some n => scanString (state.codeUnit n) rest
            | none => .broken (.plain .malformed)
          | _ => .broken state.cut
        else
          match letterEscape? e with
          | some c => scanString (state.byte c) rest
          | none => .broken (.plain .malformed)
    else if b < 0x20 then .broken (.plain .malformed)
    else scanString (state.byte b) rest

/-- A scanned string leaves fewer bytes, or none more when it was closed at once. -/
theorem scanString_length {state : StringState} {s : Bytes} {text : Option String} {rest : Bytes}
    (h : scanString state s = .closed text rest) : rest.length < s.length := by
  fun_induction scanString state s <;> simp_all <;> omega

/-! ## Numbers -/

/-- The digits at the front of the bytes. -/
def spanDigits (s : Bytes) : List Nat × Bytes :=
  ((s.takeWhile isDigit).map digitValue, s.dropWhile isDigit)

theorem spanDigits_length (s : Bytes) : (spanDigits s).2.length ≤ s.length := by
  simp only [spanDigits]
  induction s with
  | nil => simp
  | cons b s ih =>
    by_cases h : isDigit b
    · simp only [List.dropWhile_cons, h, if_true, List.length_cons]
      omega
    · simp [h]

/-- The damage of a number in which a digit is missing.  A reader sees whether the text ends there;
one who skips the number does not. -/
def missingDigit (rest : Bytes) : Damage :=
  ⟨if rest.isEmpty then .endsEarly else .malformed, .malformed⟩

/-- The part of a number before the point: one zero, or digits that do not start with one. -/
def scanWhole (s : Bytes) : Except Damage (List Nat × Bytes) :=
  match spanDigits s with
  | ([], rest) => .error (missingDigit rest)
  | (0 :: _ :: _, _) => .error (.plain .malformed)
  | found => .ok found

/-- A point and the digits after it, if there is one. -/
def scanFraction : Bytes → Except Damage (Option (List Nat) × Bytes)
  | [] => .ok (none, [])
  | b :: rest =>
    if b = 0x2e then
      match spanDigits rest with
      | ([], rest) => .error (missingDigit rest)
      | (digits, rest) => .ok (some digits, rest)
    else .ok (none, b :: rest)

/-- The sign at the front of the bytes, if there is one: whether it is a minus, and what follows. -/
def scanSign : Bytes → Bool × Bytes
  | [] => (false, [])
  | b :: rest =>
    if b = 0x2d then (true, rest) else if b = 0x2b then (false, rest) else (false, b :: rest)

/-- The number that digits spell. -/
def digitsValue (digits : List Nat) : Nat :=
  digits.foldl (fun n d => n * 10 + d) 0

/-- An exponent, if there is one. -/
def scanExponent : Bytes → Except Damage (Option Int × Bytes)
  | [] => .ok (none, [])
  | b :: rest =>
    if b = 0x65 ∨ b = 0x45 then
      let (negative, rest) := scanSign rest
      match spanDigits rest with
      | ([], rest) => .error (missingDigit rest)
      | (digits, rest) =>
        .ok (some (if negative then -(digitsValue digits : Int) else digitsValue digits), rest)
    else .ok (none, b :: rest)

/-- A number behind its sign. -/
def scanNumber (negative : Bool) (s : Bytes) : Except Damage (Numeral × Bytes) := do
  let (digits, s) ← scanWhole s
  let (fraction, s) ← scanFraction s
  let (exponent, s) ← scanExponent s
  return (⟨negative, digits, fraction, exponent⟩, s)

/-! ## Words -/

/-- Scans the remaining letters of a word. -/
def scanWord : (letters : Bytes) → Bytes → Except Flaw Bytes
  | [], s => .ok s
  | _ :: _, [] => .error .endsEarly
  | l :: letters, b :: s => if l = b then scanWord letters s else .error .malformed

/-! ## The next token -/

/-- The token of a scanned word. -/
def wordToken (token : Token) (letters s : Bytes) : Token × Bytes :=
  match scanWord letters s with
  | .ok rest => (token, rest)
  | .error f => (.broken (.plain f), [])

/-- The token of a scanned number. -/
def numberToken (negative : Bool) (s : Bytes) : Token × Bytes :=
  match scanNumber negative s with
  | .ok (numeral, rest) => (.number numeral.value?, rest)
  | .error d => (.broken d, [])

/-- The token of a scanned string. -/
def stringToken (s : Bytes) : Token × Bytes :=
  match scanString (.text []) s with
  | .closed text rest => (.str text, rest)
  | .broken d => (.brokenStr d, [])

/-- The token that begins with `b`, and the bytes behind it.  Nothing is left behind a broken
token. -/
def tokenAt (b : UInt8) (s : Bytes) : Token × Bytes :=
  match b with
  | 0x5b => (.openArray, s)
  | 0x5d => (.closeArray, s)
  | 0x7b => (.openObject, s)
  | 0x7d => (.closeObject, s)
  | 0x2c => (.comma, s)
  | 0x3a => (.colon, s)
  | 0x6e => wordToken .null [0x75, 0x6c, 0x6c] s
  | 0x74 => wordToken (.bool true) [0x72, 0x75, 0x65] s
  | 0x66 => wordToken (.bool false) [0x61, 0x6c, 0x73, 0x65] s
  | 0x22 => stringToken s
  | 0x2d => numberToken true s
  | b => if isDigit b then numberToken false (b :: s) else (.broken (.plain .malformed), [])

/-- The first token and the bytes behind it; `none` if only blanks are left. -/
def nextToken? : Bytes → Option (Token × Bytes)
  | [] => none
  | b :: rest => if isBlank b then nextToken? rest else some (tokenAt b rest)

/-! ## What is left is shorter -/

theorem spanDigits_length_lt {s : Bytes} (h : (spanDigits s).1 ≠ []) :
    (spanDigits s).2.length < s.length := by
  cases s with
  | nil => simp [spanDigits] at h
  | cons b s =>
    by_cases hb : isDigit b
    · have := spanDigits_length s
      simp only [spanDigits] at this ⊢
      simp [hb]
      omega
    · simp [spanDigits, hb] at h

theorem scanWhole_length {s rest : Bytes} {digits : List Nat}
    (h : scanWhole s = .ok (digits, rest)) : rest.length < s.length := by
  have hlt := spanDigits_length_lt (s := s)
  unfold scanWhole at h
  split at h
  · simp at h
  · simp at h
  · rename_i hne _
    have hs : spanDigits s = (digits, rest) := by simpa using h
    rw [hs] at hlt hne
    exact hlt fun h0 => hne rest (by rw [show digits = [] from h0])

theorem scanFraction_length {s rest : Bytes} {fraction : Option (List Nat)}
    (h : scanFraction s = .ok (fraction, rest)) : rest.length ≤ s.length := by
  unfold scanFraction at h
  split at h
  · simp_all
  · rename_i b s
    have hle := spanDigits_length s
    split at h
    · split at h
      · simp at h
      · rename_i hs
        simp only [Except.ok.injEq, Prod.mk.injEq] at h
        simp only [hs] at hle
        simp only [List.length_cons, ← h.2]
        omega
    · simp only [Except.ok.injEq, Prod.mk.injEq] at h
      simp [← h.2]

theorem scanSign_length (s : Bytes) : (scanSign s).2.length ≤ s.length := by
  unfold scanSign
  split
  · simp
  · split
    · simp
    · split <;> simp

theorem scanExponent_length {s rest : Bytes} {exponent : Option Int}
    (h : scanExponent s = .ok (exponent, rest)) : rest.length ≤ s.length := by
  unfold scanExponent at h
  split at h
  · simp_all
  · rename_i b s
    have hle := spanDigits_length (scanSign s).2
    have hsign := scanSign_length s
    split at h
    · dsimp only at h
      split at h
      · simp at h
      · rename_i hs
        simp only [Except.ok.injEq, Prod.mk.injEq] at h
        simp only [hs] at hle
        simp only [List.length_cons, ← h.2]
        omega
    · simp only [Except.ok.injEq, Prod.mk.injEq] at h
      simp [← h.2]

theorem scanNumber_length {negative : Bool} {s rest : Bytes} {numeral : Numeral}
    (h : scanNumber negative s = .ok (numeral, rest)) : rest.length < s.length := by
  unfold scanNumber at h
  cases hw : scanWhole s with
  | error d => simp [hw, bind, Except.bind] at h
  | ok whole =>
    obtain ⟨digits, s₁⟩ := whole
    cases hf : scanFraction s₁ with
    | error d => simp [hw, hf, bind, Except.bind] at h
    | ok part =>
      obtain ⟨fraction, s₂⟩ := part
      cases he : scanExponent s₂ with
      | error d => simp [hw, hf, he, bind, Except.bind] at h
      | ok tail =>
        obtain ⟨exponent, s₃⟩ := tail
        simp only [hw, hf, he, bind, Except.bind, pure, Except.pure, Except.ok.injEq,
          Prod.mk.injEq] at h
        have h₁ := scanWhole_length hw
        have h₂ := scanFraction_length hf
        have h₃ := scanExponent_length he
        rw [← h.2]
        omega

theorem scanWord_length {letters s rest : Bytes} (h : scanWord letters s = .ok rest) :
    rest.length ≤ s.length := by
  induction letters generalizing s with
  | nil => simp_all [scanWord]
  | cons l letters ih =>
    cases s with
    | nil => simp [scanWord] at h
    | cons b s =>
      unfold scanWord at h
      split at h
      · have := ih h
        simp only [List.length_cons]
        omega
      · simp at h

theorem wordToken_length (token : Token) (letters s : Bytes) :
    (wordToken token letters s).2.length ≤ s.length := by
  unfold wordToken
  split
  · exact scanWord_length (by assumption)
  · simp

theorem numberToken_length (negative : Bool) (s : Bytes) :
    (numberToken negative s).2.length < s.length ∨ (numberToken negative s).2 = [] := by
  unfold numberToken
  split
  · exact Or.inl (scanNumber_length (by assumption))
  · exact Or.inr rfl

theorem stringToken_length (s : Bytes) : (stringToken s).2.length ≤ s.length := by
  unfold stringToken
  split
  · exact Nat.le_of_lt (scanString_length (by assumption))
  · simp

theorem tokenAt_length (b : UInt8) (s : Bytes) : (tokenAt b s).2.length ≤ s.length := by
  unfold tokenAt
  split <;> try exact Nat.le_refl _
  · exact wordToken_length ..
  · exact wordToken_length ..
  · exact wordToken_length ..
  · exact stringToken_length s
  · rcases numberToken_length true s with h | h
    · exact Nat.le_of_lt h
    · simp [h]
  · split
    · rcases numberToken_length false (b :: s) with h | h
      · simpa [Nat.lt_succ_iff] using h
      · simp [h]
    · simp

/-- **Every token takes bytes away.** -/
theorem nextToken?_shorter {s rest : Bytes} {token : Token}
    (h : nextToken? s = some (token, rest)) : rest.length < s.length := by
  induction s with
  | nil => simp [nextToken?] at h
  | cons b s ih =>
    unfold nextToken? at h
    split at h
    · have := ih h
      simp only [List.length_cons]
      omega
    · have hle := tokenAt_length b s
      simp only [Option.some.injEq] at h
      simp only [h] at hle
      simp only [List.length_cons]
      omega

end TypedGraphQL.Json
