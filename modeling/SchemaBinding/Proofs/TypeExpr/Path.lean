import SchemaBinding.Resolver.Basic
import Mathlib.Data.List.Basic

/-! Paths: parts with `::` between them. Main statements: parts without colons are read back from
their path, the last part of a path is what stands behind its last colon, and the path of a
generated type is that of its root, its module and its name. -/
namespace SchemaBinding
namespace Path

/-- Parts of a path, each with the separator behind it. -/
def stem (ps : List (List Char)) : List Char := ps.flatMap (· ++ [':', ':'])

@[simp] theorem stem_nil : stem [] = [] := rfl

@[simp] theorem stem_cons (p : List Char) (ps : List (List Char)) :
    stem (p :: ps) = p ++ ':' :: ':' :: stem ps := by
  simp [stem]

@[simp] theorem stem_append (ps qs : List (List Char)) : stem (ps ++ qs) = stem ps ++ stem qs := by
  simp [stem]

theorem intercalate_concat (ps : List (List Char)) (name : List Char) :
    [':', ':'].intercalate (ps ++ [name]) = stem ps ++ name := by
  induction ps with
  | nil => simp
  | cons p ps ih =>
    rw [List.cons_append, List.intercalate_cons_of_ne_nil (by simp), ih]
    simp

/-- The parts of a path. -/
def parts : List Char → List (List Char)
  | [] => [[]]
  | ':' :: ':' :: cs => [] :: parts cs
  | c :: cs => (parts cs).modifyHead (c :: ·)

theorem parts_cons {c : Char} (hc : c ≠ ':') (cs : List Char) :
    parts (c :: cs) = (parts cs).modifyHead (c :: ·) := by
  cases cs <;> simp [parts, hc]

theorem parts_of_not_mem {p : List Char} (hp : ':' ∉ p) : parts p = [p] := by
  induction p with
  | nil => rfl
  | cons c cs ih =>
    simp only [List.mem_cons, not_or] at hp
    rw [parts_cons (Ne.symm hp.1), ih hp.2]
    rfl

theorem parts_append {p : List Char} (hp : ':' ∉ p) (rest : List Char) :
    parts (p ++ ':' :: ':' :: rest) = p :: parts rest := by
  induction p with
  | nil => simp [parts]
  | cons c cs ih =>
    simp only [List.mem_cons, not_or] at hp
    rw [List.cons_append, parts_cons (Ne.symm hp.1), ih hp.2]
    rfl

theorem parts_stem_append {ps : List (List Char)} {name : List Char} (hps : ∀ p ∈ ps, ':' ∉ p)
    (hname : ':' ∉ name) : parts (stem ps ++ name) = ps ++ [name] := by
  induction ps with
  | nil => exact parts_of_not_mem hname
  | cons p ps ih =>
    have hp := hps p (by simp)
    have hrest := ih fun q hq => hps q (by simp [hq])
    simp only [stem_cons, List.append_assoc, List.cons_append]
    rw [parts_append hp, hrest]

def lastPart (cs : List Char) : List Char := (cs.reverse.takeWhile (· != ':')).reverse

theorem lastPart_stem_append (ps : List (List Char)) {name : List Char} (hname : ':' ∉ name) :
    lastPart (stem ps ++ name) = name := by
  have hall : ∀ c ∈ name.reverse, (c != ':') = true := by
    intro c hc
    rw [bne_iff_ne]
    rintro rfl
    exact hname (List.mem_reverse.mp hc)
  have hstop : (stem ps).reverse.takeWhile (· != ':') = [] := by
    rcases List.eq_nil_or_concat ps with rfl | ⟨qs, q, rfl⟩
    · rfl
    · simp
  simp [lastPart, List.takeWhile_append_of_pos hall, hstop]

theorem stem_append_inj {ps qs : List (List Char)} {m n : List Char} (hm : ':' ∉ m)
    (hn : ':' ∉ n) : stem ps ++ m = stem qs ++ n ↔ stem ps = stem qs ∧ m = n := by
  constructor
  · intro h
    have hlast := congrArg lastPart h
    rw [lastPart_stem_append ps hm, lastPart_stem_append qs hn] at hlast
    subst hlast
    exact ⟨List.append_cancel_right h, rfl⟩
  · rintro ⟨h, rfl⟩
    rw [h]

/-- The part that a text is; the empty text is none. -/
def part (s : String) : List (List Char) := if s.isEmpty then [] else [s.toList]

theorem part_empty : part "" = [] := rfl

theorem part_of_ne {s : String} (hs : s ≠ "") : part s = [s.toList] := by
  simp [part, hs]

theorem stem_part_injective {s t : String} (h : stem (part s) = stem (part t)) : s = t := by
  by_cases hs : s = "" <;> by_cases ht : t = ""
  · rw [hs, ht]
  · simp [hs, part_of_ne ht, part_empty] at h
  · simp [ht, part_of_ne hs, part_empty] at h
  · rw [part_of_ne hs, part_of_ne ht] at h
    simpa [String.toList_inj] using h

end Path

open SchemaBinding.Path Text

variable [Transliteration] [SnakeCasing]

theorem TypeExpr.toList_qualifiedName_named (root : Option String) (d : Declared) :
    ((named d).qualifiedName .rust root).toList =
      stem (root.toList.map String.toList ++ part (Naming.modulePath d.package)) ++
        (Naming.exportedName d.name).toList := by
  have hseparator : Target.rust.pathSeparator = "::" := rfl
  have hcolons : "::".toList = [':', ':'] := rfl
  simp only [qualifiedName, String.toList_intercalate, List.map_append, List.map_cons, List.map_nil]
  rw [hseparator, hcolons, intercalate_concat]
  by_cases hm : Naming.modulePath d.package = "" <;> simp [Target.rust, part, hm]

theorem Resolver.toList_rustPath_named (r : Resolver) (d : Declared) :
    (r.rustPath (.named d)).toList =
      stem (part r.rootModule ++ part (Naming.modulePath d.package)) ++
        (Naming.exportedName d.name).toList := by
  rw [rustPath, TypeExpr.toList_qualifiedName_named]
  by_cases hr : r.rootModule = "" <;> simp [part, hr]

end SchemaBinding
