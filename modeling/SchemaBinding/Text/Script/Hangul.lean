import SchemaBinding.Text.Script.Basic

/-! Korean syllables. A syllable is composed of a consonant, which may be silent, a vowel, and a
consonant in the end, which may be missing. -/
namespace SchemaBinding
namespace Text
namespace Hangul

def initials : List String :=
  ["G", "Kk", "N", "D", "Tt", "L", "M", "B", "Pp", "S", "Ss", "", "J", "Jj", "Ch", "K", "T", "P", "H"]

def vowels : List String :=
  ["a", "ae", "ya", "yae", "eo", "e", "yeo", "ye", "o", "wa", "wae", "oe", "yo", "u", "wo", "we", "wi",
   "yu", "eu", "ui", "i"]

def leadingVowels : List String :=
  ["A", "Ae", "Ya", "Yae", "Eo", "E", "Yeo", "Ye", "O", "Wa", "Wae", "Oe", "Yo", "U", "Wo", "We", "Wi",
   "Yu", "Eu", "Ui", "I"]

def finals : List String :=
  ["", "g", "kk", "gs", "n", "nj", "nh", "d", "l", "lg", "lm", "lb", "ls", "lt", "lp", "lh", "m", "b",
   "bs", "s", "ss", "ng", "j", "ch", "k", "t", "p", "h"]

def silent : Nat := 11

/-- The syllable with a number among the 19 · 21 · 28 that there are. -/
def syllable (n : Nat) : List Char :=
  let initial := n / (21 * 28)
  let vowel := if initial == silent then leadingVowels else vowels
  (initials.getD initial "").toList ++ (vowel.getD (n / 28 % 21) "").toList ++
    (finals.getD (n % 28) "").toList

def counterpart? (c : Char) : Option (List Char) :=
  if 0xAC00 ≤ c.toNat ∧ c.toNat ≤ 0xD7A3 then some (syllable (c.toNat - 0xAC00)) else none

theorem isAscii_of_getD {pieces : List String} {i : Nat} {d : Char}
    (hp : pieces.all allAscii = true) (h : d ∈ (pieces.getD i "").toList) : isAscii d = true := by
  rw [List.getD_eq_getElem?_getD] at h
  cases hi : pieces[i]? with
  | none => simp [hi] at h
  | some s =>
    rw [hi, Option.getD_some] at h
    exact isAscii_of_mem_toList (List.all_eq_true.mp hp s (List.mem_of_getElem? hi)) h

theorem isAscii_of_mem_syllable {n : Nat} {d : Char} (h : d ∈ syllable n) :
    isAscii d = true := by
  unfold syllable at h
  rcases List.mem_append.mp h with h | h
  · rcases List.mem_append.mp h with h | h
    · exact isAscii_of_getD (by decide +kernel : initials.all allAscii = true) h
    · split at h
      · exact isAscii_of_getD (by decide +kernel : leadingVowels.all allAscii = true) h
      · exact isAscii_of_getD (by decide +kernel : vowels.all allAscii = true) h
  · exact isAscii_of_getD (by decide +kernel : finals.all allAscii = true) h

theorem isAscii_of_counterpart? {c d : Char} {ds : List Char} (h : counterpart? c = some ds)
    (hd : d ∈ ds) : isAscii d = true := by
  unfold counterpart? at h
  split at h
  · cases h
    exact isAscii_of_mem_syllable hd
  · cases h

end Hangul

def Script.hangul : Script where
  lettered :=
    [(0x3141, "mb"), (0x314B, "ktpha")]
  spelled :=
    [("g", "ㄱ"), ("kk", "ㄲ"), ("gs", "ㄳ"), ("n", "ㄴ"), ("nj", "ㄵ"), ("nh", "ㄶ"), ("d", "ㄷ"),
     ("tt", "ㄸ"), ("l", "ㄹ"), ("lg", "ㄺ"), ("lm", "ㄻ"), ("lb", "ㄼ"), ("ls", "ㄽ"), ("lt", "ㄾ"),
     ("lp", "ㄿ"), ("lh", "ㅀ"), ("pp", "ㅃ"), ("bs", "ㅄ"), ("s", "ㅅ"), ("ss", "ㅆ"), ("ng", "ㅇ"),
     ("j", "ㅈ"), ("jj", "ㅉ"), ("ch", "ㅊ"), ("ae", "ㅐ"), ("ya", "ㅑ"), ("yae", "ㅒ"), ("eo", "ㅓ"),
     ("e", "ㅔ"), ("yeo", "ㅕ"), ("ye", "ㅖ"), ("o", "ㅗ"), ("wa", "ㅘ"), ("wae", "ㅙ"), ("oe", "ㅚ"),
     ("yo", "ㅛ"), ("u", "ㅜ"), ("wo", "ㅝ"), ("we", "ㅞ"), ("wi", "ㅟ"), ("yu", "ㅠ"), ("eu", "ㅡ"),
     ("ui", "ㅢ"), ("i", "ㅣ")]

end Text
end SchemaBinding
