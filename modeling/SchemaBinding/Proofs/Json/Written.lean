import SchemaBinding.Json.Decode
import SchemaBinding.Json.Writer

/-! Reading what was written. Main statements: strings, labels and members are taken from the head of
a text whatever stands behind them, and reading the members of a written object one by one comes to
the same as folding over the members themselves. -/
namespace SchemaBinding
namespace Json

variable {α β σ : Type}

namespace Reader

/-- From the head of every text that begins like this the reader takes just that, with this
result. -/
def Takes (reader : Reader α) (text : List Char) (result : Except Fault α) : Prop :=
  ∀ rest, reader.run (text ++ rest) = result.map (·, rest)

theorem Takes.bind {reader : Reader α} {next : α → Reader β} {text more : List Char}
    {result : Except Fault α} {f : α → Except Fault β} (h : reader.Takes text result)
    (hnext : ∀ a, (next a).Takes more (f a)) :
    (reader >>= next).Takes (text ++ more) (result >>= f) := by
  intro rest
  rw [StateT.run_bind, List.append_assoc, h]
  cases result with
  | error fault => rfl
  | ok a => exact hnext a rest

theorem Takes.bindOk {reader : Reader α} {next : α → Reader β} {text more : List Char} {a : α}
    {result : Except Fault β} (h : reader.Takes text (.ok a)) (hnext : (next a).Takes more result) :
    (reader >>= next).Takes (text ++ more) result := by
  intro rest
  rw [StateT.run_bind, List.append_assoc, h]
  exact hnext rest

theorem takes_pure (a : α) : (pure a : Reader α).Takes [] (.ok a) := fun _ => rfl

theorem takes_throw (text : List Char) (fault : Fault) :
    (throw fault : Reader α).Takes text (.error fault) :=
  fun _ => rfl

theorem Takes.run_eq_ok_iff {reader : Reader α} {result : Except Fault α}
    (h : reader.Takes [] result) {cs rest : List Char} {a : α} :
    reader.run cs = .ok (a, rest) ↔ result = .ok a ∧ rest = cs := by
  have hrun := h cs
  rw [List.nil_append] at hrun
  rw [hrun]
  cases result <;> simp [Except.map, eq_comm]

theorem takes_liftM (result : Except Fault α) : (liftM result : Reader α).Takes [] result := by
  intro rest
  cases result <;> rfl

theorem Takes.map {reader : Reader α} {text : List Char} {result : Except Fault α} (f : α → β)
    (h : reader.Takes text result) : (f <$> reader).Takes text (result.map f) := by
  intro rest
  rw [StateT.run_map, h]
  cases result <;> rfl

theorem Takes.seqRight {reader : Reader α} {next : Reader β} {text more : List Char} {a : α}
    {result : Except Fault β} (h : reader.Takes text (.ok a)) (hnext : next.Takes more result) :
    (reader *> next).Takes (text ++ more) result := by
  rw [seqRight_eq_bind]
  exact h.bindOk hnext

theorem Takes.peek {next : Option Char → Reader β} {c : Char} {cs : List Char}
    {result : Except Fault β} (hc : isGap c = false) (h : (next (some c)).Takes (c :: cs) result) :
    (peek >>= next).Takes (c :: cs) result := by
  intro rest
  have hpeek : Reader.peek.run (c :: cs ++ rest) = .ok (some c, c :: cs ++ rest) := by
    have hdrop : (c :: cs ++ rest).dropWhile isGap = c :: cs ++ rest := by simp [hc]
    show Except.ok (((c :: cs ++ rest).dropWhile isGap).head?, (c :: cs ++ rest).dropWhile isGap) = _
    rw [hdrop]
    rfl
  rw [StateT.run_bind, hpeek]
  exact h rest

theorem takes_colon : colon.Takes [':'] (.ok ()) := Takes.peek (by decide) fun _ => rfl

theorem Takes.drop {next : Unit → Reader β} {text : List Char} {result : Except Fault β} (c : Char)
    (h : (next ()).Takes text result) : (drop >>= next).Takes (c :: text) result :=
  fun rest => h rest

theorem takes_string {g : Rigor} (s : String) : (string g).Takes (writeString s.toList) (.ok s) := by
  refine Takes.drop '"' fun rest => ?_
  have hscan := scanString_flatMap_escapeChar g.paired s.toList rest
  rw [List.append_assoc, StateT.run_bind, StateT.run_get, pure_bind, StateT.run_bind,
    StateT.run_monadLift, List.singleton_append, hscan]
  show Except.ok (String.ofList s.toList, rest) = .ok (s, rest)
  rw [String.ofList_toList]

theorem takes_asString (wanted : Wanted) (s : String) :
    (asString wanted).Takes (writeString s.toList) (.ok s) :=
  Takes.peek (by decide) (takes_string s)

theorem takes_name {g : Rigor} (s : String) : (name g).Takes (writeString s.toList) (.ok s) :=
  Takes.peek (by decide) (takes_string s)

theorem takes_variantNamed [Labelled α] (name : String) :
    (variantNamed name : Reader α).Takes [] (variantNamed name) := by
  unfold variantNamed
  cases Labelled.ofLabel? α name with
  | none => exact takes_throw [] _
  | some a => exact takes_pure a

theorem takes_asLabel [Labelled α] (room : Nat) (s : String) :
    (asLabel (α := α) room).Takes (writeString s.toList) (Json.asLabel (α := α) (.string s)) := by
  have hlabel : (string .full >>= fun name => (variantNamed name : Reader α) >>= pure).Takes
      (writeString s.toList ++ ([] ++ [])) (Json.asLabel (α := α) (.string s)) :=
    (takes_string s).bind fun name => (takes_variantNamed name).bind takes_pure
  rw [List.append_nil, List.append_nil] at hlabel
  exact Takes.peek (by decide) hlabel

end Reader

def writeMember (m : String × Json) : List Char := writeString m.1.toList ++ ':' :: write m.2

theorem writeMembers_cons (m : String × Json) (ms : List (String × Json)) :
    writeMembers (m :: ms) = writeMember m ++ ms.flatMap fun m => ',' :: writeMember m := by
  induction ms generalizing m with
  | nil => simp [writeMembers, writeMember]
  | cons n ms ih => simp [writeMembers, writeMember, ih]

theorem length_le_writeMembers (ms : List (String × Json)) :
    ms.length ≤ (writeMembers ms).length := by
  cases ms with
  | nil => simp
  | cons m ms =>
    have hrest : ms.length ≤ (ms.flatMap fun m => ',' :: writeMember m).length := by
      induction ms with
      | nil => simp
      | cons n ms ih =>
        simp only [List.length_cons, List.flatMap_cons, List.length_append]
        omega
    have hm : 0 < (writeMember m).length := by simp [writeMember, writeString]
    simp only [writeMembers_cons, List.length_cons, List.length_append]
    omega

namespace Reader

/-! A list of members goes on with the first member, with a comma and another member, or ends. -/

theorem Takes.moreFirst {next : Bool → Reader β} {close c : Char} {cs : List Char}
    {result : Except Fault β} (hc : isGap c = false) (hclose : c ≠ close)
    (h : (next true).Takes (c :: cs) result) : (more close true >>= next).Takes (c :: cs) result := by
  rw [more, bind_assoc]
  refine Takes.peek hc ?_
  simpa [hclose] using h

theorem Takes.moreEnd {next : Bool → Reader β} {close : Char} {first : Bool} {cs : List Char}
    {result : Except Fault β} (hclose : isGap close = false)
    (h : (next false).Takes (close :: cs) result) :
    (more close first >>= next).Takes (close :: cs) result := by
  rw [more, bind_assoc]
  refine Takes.peek hclose ?_
  simpa using h

theorem Takes.moreComma {next : Bool → Reader β} {close c : Char} {cs : List Char}
    {result : Except Fault β} (hc : isGap c = false) (hclose : c ≠ close) (hcomma : ',' ≠ close)
    (h : (next true).Takes (c :: cs) result) :
    (more close false >>= next).Takes (',' :: c :: cs) result := by
  rw [more, bind_assoc]
  refine Takes.peek (by decide) ?_
  simp only [hcomma, if_true, Bool.false_eq_true, if_false, bind_assoc]
  refine Takes.drop ',' (Takes.peek hc ?_)
  simpa [hclose] using h

variable {g : Rigor} {step : σ → String → Reader σ} {f : σ → String × Json → Except Fault σ}
  {ms : List (String × Json)}

/-- A step of the reader takes the value of a member as `f` decodes it. -/
def StepsAs (step : σ → String → Reader σ) (f : σ → String × Json → Except Fault σ)
    (m : String × Json) : Prop :=
  ∀ s, (step s m.1).Takes (':' :: write m.2) (f s m)

theorem StepsAs.takes {m : String × Json} (h : StepsAs step f m) (s : σ) :
    (name g >>= step s).Takes (writeMember m) (f s m) :=
  (takes_name m.1).bindOk (h s)

theorem StepsAs.takes_cons {m : String × Json} (h : StepsAs step f m) {n : Nat} {text : List Char}
    (hrest : ∀ s, (foldMembers g step n false s).Takes text (ms.foldlM f s)) (s : σ) :
    (name g >>= fun k => step s k >>= foldMembers g step n false).Takes (writeMember m ++ text)
      ((m :: ms).foldlM f s) := by
  have hmember := (h.takes (g := g) s).bind hrest
  rwa [bind_assoc] at hmember

theorem takes_foldMembers_rest (h : ∀ m ∈ ms, StepsAs step f m) {n : Nat} (hn : ms.length < n)
    (s : σ) :
    (foldMembers g step n false s).Takes ((ms.flatMap fun m => ',' :: writeMember m) ++ ['}'])
      (ms.foldlM f s) := by
  induction ms generalizing n s with
  | nil =>
    obtain ⟨n, rfl⟩ := Nat.exists_eq_succ_of_ne_zero (Nat.ne_of_gt hn)
    exact Takes.moreEnd (by decide) (Takes.drop '}' (takes_pure s))
  | cons m ms ih =>
    obtain ⟨n, rfl⟩ := Nat.exists_eq_succ_of_ne_zero (Nat.ne_of_gt (Nat.zero_lt_of_lt hn))
    obtain ⟨hm, hms⟩ := List.forall_mem_cons.mp h
    have hmember := hm.takes_cons (g := g) (ih hms (Nat.lt_of_succ_lt_succ hn)) s
    rw [List.flatMap_cons, List.append_assoc]
    exact Takes.moreComma (by decide) (by decide) (by decide) hmember

theorem takes_members (h : ∀ m ∈ ms, StepsAs step f m) (s : σ) :
    (members g step s).Takes (writeMembers ms ++ ['}']) (ms.foldlM f s) := by
  intro rest
  have hlength := length_le_writeMembers ms
  show (foldMembers g step ((writeMembers ms ++ ['}'] ++ rest).length + 1) true s).run _ = _
  -- The text is longer than the list of members, so that the bound is never met.
  generalize hn : (writeMembers ms ++ ['}'] ++ rest).length = n
  have hms : ms.length ≤ n := by
    simp only [List.length_append] at hn
    omega
  cases ms with
  | nil => exact Takes.moreEnd (by decide) (Takes.drop '}' (takes_pure s)) rest
  | cons m ms =>
    obtain ⟨hm, htail⟩ := List.forall_mem_cons.mp h
    have hmember := hm.takes_cons (g := g) (takes_foldMembers_rest htail hms) s
    rw [writeMembers_cons, List.append_assoc _ _ ['}']]
    have hmembers : (foldMembers g step (n + 1) true s).Takes _ ((m :: ms).foldlM f s) :=
      Takes.moreFirst (by decide) (by decide) hmember
    exact hmembers rest

theorem takes_asRecord {room : Nat} (hroom : room ≠ 0) (type : String)
    {fromMembers : Reader α} (fromElements : Reader α) {text : List Char} {result : Except Fault α}
    (h : fromMembers.Takes text result) :
    (asRecord room type fromMembers fromElements).Takes ('{' :: text) result := by
  refine Takes.peek (by decide) ?_
  simp only [descend, hroom, if_false]
  exact Takes.drop '{' h

theorem takes_once {read : Reader α} {text : List Char} {result : Except Fault α}
    (h : read.Takes text result) (name : String) (slot : Option α) :
    (once name slot read).Takes text (once name slot result) := by
  cases slot with
  | none => exact h.map some
  | some a => exact takes_throw text _

theorem ofText_of_takes {reader : Reader α} {text : String} {result : Except Fault α}
    (h : reader.Takes text.toList result) : reader.ofText text = result := by
  have hrun := h []
  rw [List.append_nil] at hrun
  rw [ofText, hrun]
  cases result <;> rfl

end Reader

theorem asLabel_label [Labelled α] [LawfulLabelled α] (a : α) :
    asLabel (α := α) (.string (Labelled.label a)) = .ok a := by
  show (variantNamed (Labelled.label a) >>= pure : Except Fault α) = _
  rw [variantNamed, Labelled.ofLabel?_label]
  rfl

end Json
end SchemaBinding
