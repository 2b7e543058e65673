import SchemaBinding.Proofs.Text.Letter
import SchemaBinding.Proofs.Text.Pieces
import SchemaBinding.Proofs.Text.Trim
import SchemaBinding.Text.Sanitized

/-! Inner underscores: every underscore stands directly behind a letter or a digit. Main statements:
sanitised texts have inner underscores only, and where there are no others nothing is left to
collapse. -/
namespace SchemaBinding
namespace Text

/-- What may stand behind a character: after a letter or a digit everything, and else everything
but an underscore. -/
def Behind (a b : Char) : Prop := b = '_' → a.isAlphanum = true

/-- Every underscore of the text, or of each of its segments between slashes, stands behind a letter
or a digit of it. -/
def Inner (cs : List Char) : Prop := ('/' :: cs).IsChain Behind

instance : DecidableRel Behind := fun a b =>
  inferInstanceAs (Decidable (b = '_' → a.isAlphanum = true))

instance (cs : List Char) : Decidable (Inner cs) :=
  inferInstanceAs (Decidable (('/' :: cs).IsChain Behind))

variable {cs ds : List Char}

theorem behind_of_ne (a : Char) {b : Char} (hb : b ≠ '_') : Behind a b := fun h => absurd h hb

theorem inner_iff : Inner cs ↔ cs.head? ≠ some '_' ∧ cs.IsChain Behind := by
  rw [Inner, List.isChain_cons]
  apply and_congr_left
  intro _
  constructor
  · intro h hhead
    exact absurd (h '_' hhead rfl) (by decide)
  · intro h b hb
    apply behind_of_ne
    rintro rfl
    exact h hb

theorem inner_of_isAlphanum (h : ∀ c ∈ cs, c.isAlphanum = true) : Inner cs := by
  have hne : ∀ c ∈ cs, c ≠ '_' := by
    rintro c hc rfl
    exact absurd (h '_' hc) (by decide)
  refine inner_iff.mpr ⟨fun hhead => hne '_' (List.mem_of_mem_head? hhead) rfl, ?_⟩
  refine (List.pairwise_of_forall_mem_list fun a _ b hb => ?_).isChain
  exact behind_of_ne a (hne b hb)

theorem inner_nil : Inner [] := List.isChain_singleton _

theorem Inner.behind_head (h : Inner cs) (a : Char) {b : Char} (hb : b ∈ cs.head?) :
    Behind a b := by
  apply behind_of_ne
  rintro rfl
  exact (inner_iff.mp h).1 hb

theorem Inner.isChain_cons (h : Inner cs) (a : Char) : (a :: cs).IsChain Behind :=
  (inner_iff.mp h).2.cons fun _ => h.behind_head a

theorem Inner.append (hcs : Inner cs) (hds : Inner ds) : Inner (cs ++ ds) := by
  show (('/' :: cs) ++ ds).IsChain Behind
  have hchain := (inner_iff.mp hds).2
  exact List.IsChain.append hcs hchain fun a _ _ => hds.behind_head a

theorem Inner.append_slash (hcs : Inner cs) (hds : Inner ds) : Inner (cs ++ '/' :: ds) := by
  apply hcs.append
  show ('/' :: '/' :: ds).IsChain Behind
  exact List.isChain_cons_cons.mpr ⟨behind_of_ne '/' (by decide), hds⟩

theorem inner_intercalate {ps : List (List Char)} (h : ∀ p ∈ ps, Inner p) :
    Inner (['/'].intercalate ps) := by
  induction ps with
  | nil => exact inner_nil
  | cons p ps ih =>
    have hp := h p (by simp)
    by_cases hps : ps = []
    · simpa [hps] using hp
    · rw [List.intercalate_cons_of_ne_nil hps, List.append_assoc]
      exact hp.append_slash (ih fun q hq => h q (by simp [hq]))

theorem inner_of_mem_splitOn (h : Inner cs) (hds : ds ∈ cs.splitOn '/') : Inner ds := by
  have hflatten := cons_intercalate '/' (List.splitOn_ne_nil '/' cs)
  rw [List.intercalate_splitOn] at hflatten
  rw [Inner, hflatten] at h
  exact List.IsChain.infix h (List.infix_of_mem_flatten (List.mem_map_of_mem hds))

theorem inner_of_isChain_underscore (h : ('_' :: cs).IsChain Behind) : Inner cs := by
  rw [List.isChain_cons] at h
  refine inner_iff.mpr ⟨fun hhead => ?_, h.2⟩
  exact absurd (h.1 '_' hhead rfl) (by decide)

theorem not_infix_of_inner (h : Inner cs) : ¬['_', '_'] <:+: cs := by
  intro hinfix
  have hchain := List.IsChain.infix (inner_iff.mp h).2 hinfix
  exact absurd (List.isChain_pair.mp hchain rfl) (by decide)

theorem head?_squeeze {p : Char → Bool} (h : cs.head?.any p = false) :
    (squeeze p cs).head? = cs.head? := by
  cases cs with
  | nil => rfl
  | cons c cs => simp_all [squeeze]

theorem isChain_collapseUnderscores (h : ∀ c ∈ cs, isIdentChar c = true) :
    (collapseUnderscores cs).IsChain Behind := by
  induction cs with
  | nil => exact List.isChain_nil
  | cons c cs ih =>
    have ih := ih fun d hd => h d (by simp [hd])
    rw [collapseUnderscores] at ih ⊢
    by_cases hc : c = '_'
    · subst hc
      cases hnext : cs.head?.any (· == '_') with
      | true => simpa [squeeze, hnext] using ih
      | false =>
        simp only [squeeze, hnext, beq_self_eq_true, if_true, Bool.false_eq_true, if_false]
        refine ih.cons fun b hb => behind_of_ne '_' ?_
        rw [head?_squeeze hnext] at hb
        rintro rfl
        simp_all
    · have hident := h c (by simp)
      simp only [squeeze, beq_iff_eq, hc, if_false]
      refine ih.cons fun b _ _ => ?_
      simpa [isIdentChar, hc] using hident

theorem collapseUnderscores_of_inner (h : Inner cs) : collapseUnderscores cs = cs := by
  have hchain := (inner_iff.mp h).2
  clear h
  rw [collapseUnderscores]
  induction cs with
  | nil => rfl
  | cons c cs ih =>
    rw [List.isChain_cons] at hchain
    by_cases hc : c = '_'
    · subst hc
      have hnext : cs.head?.any (· == '_') = false := by
        rw [Option.any_eq_false]
        intro b hb
        by_contra h
        exact absurd (hchain.1 b hb (by simpa using h)) (by decide)
      simp [squeeze, hnext, ih hchain.2]
    · simp [squeeze, hc, ih hchain.2]

theorem isAscii_of_isIdentChar {c : Char} (h : isIdentChar c = true) : isAscii c = true := by
  rw [isIdentChar, Bool.or_eq_true, beq_iff_eq] at h
  rcases h with h | rfl
  · exact isAscii_of_isAlphanum h
  · decide

theorem isIdentChar_of_mem_squeeze {c : Char} (h : c ∈ squeeze (fun c => !isIdentChar c) cs) :
    isIdentChar c = true := by
  rcases mem_squeeze h with rfl | ⟨-, h⟩
  · decide
  · simpa using h

variable [Transliteration]

theorem isIdentChar_of_mem_sanitize {c : Char} (h : c ∈ sanitize cs) : isIdentChar c = true := by
  rcases mem_squeeze ((isInfix_trimOf _ _).subset h) with rfl | ⟨h, -⟩
  · decide
  · exact isIdentChar_of_mem_squeeze h

theorem inner_sanitize (cs : List Char) : Inner (sanitize cs) := by
  have hchain : (collapseUnderscores (squeeze (fun c => !isIdentChar c)
      (transliterate cs))).IsChain Behind :=
    isChain_collapseUnderscores fun c => isIdentChar_of_mem_squeeze
  refine inner_iff.mpr ⟨?_, List.IsChain.infix hchain (isInfix_trimOf _ _)⟩
  intro hhead
  exact absurd (eq_false_of_head?_trimOf hhead) (by decide)

end Text
end SchemaBinding
