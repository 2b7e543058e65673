import SchemaBinding.Json.Fault

/-! JSON strings: characters between quotes, some of them escaped. Main statement: what is written
is read back, whatever stands behind it. -/
namespace SchemaBinding
namespace Json

def escapeLetter : Char → Option Char
  | '"' => some '"'
  | '\\' => some '\\'
  | '\x08' => some 'b'
  | '\x0c' => some 'f'
  | '\n' => some 'n'
  | '\r' => some 'r'
  | '\t' => some 't'
  | _ => none

/-- The character that a letter behind a backslash stands for. -/
def unescapeLetter : Char → Option Char
  | '"' => some '"'
  | '\\' => some '\\'
  | '/' => some '/'
  | 'b' => some '\x08'
  | 'f' => some '\x0c'
  | 'n' => some '\n'
  | 'r' => some '\r'
  | 't' => some '\t'
  | _ => none

def hexValue (c : Char) : Option Nat :=
  if c.isDigit then some (c.toNat - '0'.toNat)
  else if 'a' ≤ c ∧ c ≤ 'f' then some (c.toNat - 'a'.toNat + 10)
  else if 'A' ≤ c ∧ c ≤ 'F' then some (c.toNat - 'A'.toNat + 10)
  else none

/-- Four hexadecimal digits. A text of fewer than four bytes is too short to hold them. -/
def scanHex : List Char → Except Fault (Nat × List Char)
  | a :: b :: c :: d :: rest =>
    match [a, b, c, d].mapM hexValue with
    | some digits => .ok (digits.foldl (fun n v => 16 * n + v) 0, rest)
    | none => .error .malformed
  | cs => .error (if (String.ofList cs).utf8ByteSize < 4 then .truncated else .malformed)

def isHighSurrogate (n : Nat) : Bool := 0xD800 ≤ n && n < 0xDC00

def isLowSurrogate (n : Nat) : Bool := 0xDC00 ≤ n && n < 0xE000

def joinSurrogates (high low : Nat) : Char :=
  Char.ofNat ((high - 0xD800) * 0x400 + (low - 0xDC00) + 0x10000)

/-- The second half of a pair of surrogates. -/
def scanLowSurrogate (high : Nat) : List Char → Except Fault (Char × List Char)
  | [] => .error .truncated
  | ['\\'] => .error .truncated
  | '\\' :: 'u' :: cs => do
    let (low, rest) ← scanHex cs
    if isLowSurrogate low then pure (joinSurrogates high low, rest) else throw .malformed
  | _ => .error .malformed

/-- What follows a backslash. If surrogates have to be `paired`, one alone is refused. -/
def scanEscape (paired : Bool) : List Char → Except Fault (Char × List Char)
  | [] => .error .truncated
  | 'u' :: cs => do
    let (n, rest) ← scanHex cs
    if paired && isLowSurrogate n then throw .malformed
    else if paired && isHighSurrogate n then scanLowSurrogate n rest
    else pure (Char.ofNat n, rest)
  | c :: cs =>
    match unescapeLetter c with
    | some d => .ok (d, cs)
    | none => .error .malformed

theorem length_scanHex {cs rest : List Char} {n : Nat} (h : scanHex cs = .ok (n, rest)) :
    rest.length < cs.length := by
  unfold scanHex at h
  split at h
  · split at h
    · simp only [Except.ok.injEq, Prod.mk.injEq] at h
      simp only [List.length_cons, ← h.2]
      omega
    · cases h
  · cases h

theorem length_scanLowSurrogate {high : Nat} {cs rest : List Char} {c : Char}
    (h : scanLowSurrogate high cs = .ok (c, rest)) : rest.length < cs.length := by
  unfold scanLowSurrogate at h
  split at h
  · cases h
  · cases h
  · rename_i ds
    cases hx : scanHex ds with
    | error e => simp [hx, bind, Except.bind] at h
    | ok p =>
      have hl := length_scanHex hx
      simp only [hx, bind, Except.bind] at h
      split at h
      · simp only [pure, Except.pure, Except.ok.injEq, Prod.mk.injEq] at h
        simp only [List.length_cons, ← h.2]
        omega
      · cases h
  · cases h

theorem length_scanEscape {paired : Bool} {cs rest : List Char} {c : Char}
    (h : scanEscape paired cs = .ok (c, rest)) : rest.length < cs.length := by
  unfold scanEscape at h
  split at h
  · cases h
  · rename_i ds
    cases hx : scanHex ds with
    | error e => simp [hx, bind, Except.bind] at h
    | ok p =>
      have hl := length_scanHex hx
      simp only [hx, bind, Except.bind] at h
      split at h
      · cases h
      · split at h
        · have := length_scanLowSurrogate h
          simp only [List.length_cons]
          omega
        · simp only [pure, Except.pure, Except.ok.injEq, Prod.mk.injEq] at h
          simp only [List.length_cons, ← h.2]
          omega
  · split at h
    · simp only [Except.ok.injEq, Prod.mk.injEq] at h
      simp [← h.2]
    · cases h

def scanString (paired : Bool) : List Char → Except Fault (List Char × List Char)
  | [] => .error .truncated
  | '"' :: rest => .ok ([], rest)
  | '\\' :: cs =>
    match _h : scanEscape paired cs with
    | .error fault => .error fault
    | .ok (c, rest) => do
      let (s, rest) ← scanString paired rest
      pure (c :: s, rest)
  | c :: cs =>
    if c.toNat < 0x20 then .error .malformed
    else do
      let (s, rest) ← scanString paired cs
      pure (c :: s, rest)
termination_by cs => cs.length
decreasing_by
  · have := length_scanEscape _h
    simp only [List.length_cons]
    omega
  · simp

theorem scanString_quote (paired : Bool) (rest : List Char) :
    scanString paired ('"' :: rest) = .ok ([], rest) := by
  rw [scanString]

theorem scanString_escape {paired : Bool} {cs ds s rest : List Char} {c : Char}
    (hc : scanEscape paired cs = .ok (c, ds)) (hs : scanString paired ds = .ok (s, rest)) :
    scanString paired ('\\' :: cs) = .ok (c :: s, rest) := by
  rw [scanString]
  split
  · rename_i h
    rw [hc] at h
    cases h
  · rename_i h
    rw [hc] at h
    simp only [Except.ok.injEq, Prod.mk.injEq] at h
    obtain ⟨rfl, rfl⟩ := h
    rw [hs]
    rfl

theorem scanString_plain {paired : Bool} {cs s rest : List Char} {c : Char} (hq : c ≠ '"')
    (hb : c ≠ '\\') (hc : ¬c.toNat < 0x20) (hs : scanString paired cs = .ok (s, rest)) :
    scanString paired (c :: cs) = .ok (c :: s, rest) := by
  rw [scanString]
  · rw [if_neg hc, hs]
    rfl
  · exact hq
  · exact hb

def escapeChar (c : Char) : List Char :=
  match escapeLetter c with
  | some letter => ['\\', letter]
  | none =>
    if c.toNat < 0x20 then
      ['\\', 'u', '0', '0', Nat.digitChar (c.toNat / 16), Nat.digitChar (c.toNat % 16)]
    else [c]

def writeString (s : List Char) : List Char := '"' :: (s.flatMap escapeChar ++ ['"'])

theorem unescapeLetter_escapeLetter {c letter : Char} (h : escapeLetter c = some letter) :
    unescapeLetter letter = some c ∧ letter ≠ 'u' := by
  unfold escapeLetter at h
  split at h <;> cases h
  all_goals decide

theorem scanEscape_letter {paired : Bool} {letter d : Char} {rest : List Char}
    (hu : letter ≠ 'u') (hd : unescapeLetter letter = some d) :
    scanEscape paired (letter :: rest) = .ok (d, rest) := by
  rw [scanEscape]
  · rw [hd]
  · exact hu

theorem scanEscape_control {n : Nat} (h : n < 0x20) (paired : Bool) (rest : List Char) :
    scanEscape paired
      ('u' :: '0' :: '0' :: Nat.digitChar (n / 16) :: Nat.digitChar (n % 16) :: rest) =
      .ok (Char.ofNat n, rest) := by
  have hd : ∀ n < 0x20,
      (['0', '0', Nat.digitChar (n / 16), Nat.digitChar (n % 16)].mapM hexValue) =
        some [0, 0, n / 16, n % 16] := by decide
  rw [scanEscape, scanHex, hd n h]
  have hn : 16 * (16 * (16 * (16 * 0 + 0) + 0) + n / 16) + n % 16 = n := by omega
  simp only [List.foldl, hn, bind, Except.bind]
  rw [if_neg (by simp [isLowSurrogate]; omega), if_neg (by simp [isHighSurrogate]; omega)]
  rfl

theorem scanString_flatMap_escapeChar (paired : Bool) (s rest : List Char) :
    scanString paired (s.flatMap escapeChar ++ '"' :: rest) = .ok (s, rest) := by
  induction s with
  | nil => exact scanString_quote paired rest
  | cons c s ih =>
    rw [List.flatMap_cons, List.append_assoc, escapeChar]
    split
    · rename_i letter h
      obtain ⟨hd, hu⟩ := unescapeLetter_escapeLetter h
      exact scanString_escape (scanEscape_letter hu hd) ih
    · rename_i h
      split
      · rename_i hc
        have := scanEscape_control hc paired (s.flatMap escapeChar ++ '"' :: rest)
        rw [Char.ofNat_toNat] at this
        exact scanString_escape this ih
      · rename_i hc
        refine scanString_plain ?_ ?_ hc ih
        · rintro rfl
          cases h
        · rintro rfl
          cases h

end Json
end SchemaBinding
