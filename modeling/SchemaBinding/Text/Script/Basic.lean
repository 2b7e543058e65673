import SchemaBinding.Text.Ascii

/-! Scripts with the ASCII counterparts of their characters. -/
namespace SchemaBinding
namespace Text

structure Script where
  /-- Runs of consecutive characters with one counterpart each, in ascending order: the first code
  point of the run, and the counterparts one by one. -/
  lettered : List (Nat × String) := []
  /-- Spellings, and the characters that are spelled so. -/
  spelled : List (String × String) := []

namespace Script

/-- The last run that begins at a character or before it. -/
def run? (s : Script) (c : Char) : Option (Nat × String) :=
  (s.lettered.takeWhile fun run => run.1 ≤ c.toNat).getLast?

def letter? (s : Script) (c : Char) : Option Char := do
  let run ← s.run? c
  run.2.toList[c.toNat - run.1]?

def spelling? (s : Script) (c : Char) : Option String :=
  (s.spelled.find? fun e => e.2.toList.contains c).map Prod.fst

def counterpart? (s : Script) (c : Char) : Option (List Char) :=
  match s.letter? c with
  | some d => some [d]
  | none => (s.spelling? c).map String.toList

def ascii (s : Script) : Bool :=
  (s.lettered.all fun run => allAscii run.2) && s.spelled.all fun e => allAscii e.1

theorem isAscii_of_letter? {s : Script} {c d : Char} (hs : s.ascii = true)
    (h : s.letter? c = some d) : isAscii d = true := by
  simp only [ascii, Bool.and_eq_true, List.all_eq_true] at hs
  obtain ⟨run, hrun, hd⟩ := Option.bind_eq_some_iff.mp h
  have hmem := (List.takeWhile_sublist _).subset (List.mem_of_getLast? hrun)
  exact isAscii_of_mem_toList (hs.1 run hmem) (List.mem_of_getElem? hd)

theorem allAscii_of_spelling? {s : Script} {c : Char} {t : String} (hs : s.ascii = true)
    (h : s.spelling? c = some t) : allAscii t = true := by
  simp only [ascii, Bool.and_eq_true, List.all_eq_true] at hs
  obtain ⟨e, he, rfl⟩ := Option.map_eq_some_iff.mp h
  exact hs.2 e (List.mem_of_find?_eq_some he)

theorem isAscii_of_counterpart? {s : Script} {c d : Char} {ds : List Char}
    (hs : s.ascii = true) (h : s.counterpart? c = some ds) (hd : d ∈ ds) : isAscii d = true := by
  unfold counterpart? at h
  split at h
  · rename_i e he
    cases h
    rw [List.mem_singleton.mp hd]
    exact isAscii_of_letter? hs he
  · obtain ⟨t, ht, rfl⟩ := Option.map_eq_some_iff.mp h
    exact isAscii_of_mem_toList (allAscii_of_spelling? hs ht) hd

end Script
end Text
end SchemaBinding
