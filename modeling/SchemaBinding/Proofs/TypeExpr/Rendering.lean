import SchemaBinding.Proofs.TypeExpr.Unambiguous

/-! Rendering by layers. Main statement: in every target language a reference is written as its
innermost type, with one opening in front and one closing behind for each sequence around it. Its
module is that of the innermost type, and root and separator count for generated types only. -/
namespace SchemaBinding

def repeated (n : Nat) (s : String) : String := String.join (List.replicate n s)

@[simp] theorem repeated_zero (s : String) : repeated 0 s = "" := rfl

theorem repeated_succ (n : Nat) (s : String) : repeated (n + 1) s = s ++ repeated n s := by
  simp [repeated, List.replicate_succ]

theorem repeated_append_self (n : Nat) (s : String) : repeated n s ++ s = s ++ repeated n s := by
  induction n with
  | zero => simp
  | succ n ih => rw [repeated_succ, String.append_assoc, ih]

theorem Target.sequences_eq_repeated (target : Target) (n : Nat) (item : String) :
    target.sequences n item =
      repeated n target.sequenceOpen ++ item ++ repeated n target.sequenceClose := by
  induction n with
  | zero => simp [sequences]
  | succ n ih =>
    calc target.sequences (n + 1) item
        = target.sequenceOpen ++ (repeated n target.sequenceOpen ++ item ++
            repeated n target.sequenceClose) ++ target.sequenceClose := by
          rw [sequences, sequence, ih]
      _ = target.sequenceOpen ++ repeated n target.sequenceOpen ++ item ++
            (repeated n target.sequenceClose ++ target.sequenceClose) := by
          simp only [String.append_assoc]
      _ = repeated (n + 1) target.sequenceOpen ++ item ++
            repeated (n + 1) target.sequenceClose := by
          rw [repeated_append_self, ← repeated_succ, ← repeated_succ]

namespace TypeExpr

@[simp] theorem innermost_innermost (t : TypeExpr) : t.innermost.innermost = t.innermost := by
  have h := t.innermost.innermost_nest t.depth
  rwa [nest_innermost, eq_comm] at h

theorem typeName_eq_sequences (target : Target) (t : TypeExpr) :
    t.typeName target = target.sequences t.depth (t.innermost.typeName target) := by
  induction t with
  | sequence item ih => rw [typeName, ih]; rfl
  | _ => rfl

theorem moduleName_innermost (target : Target) (t : TypeExpr) :
    t.innermost.moduleName target = t.moduleName target := by
  rw [moduleName, moduleName, innermost_innermost]

theorem qualifiedName_builtin (target : Target) (root : Option String) (b : Builtin) :
    (builtin b).qualifiedName target root = (builtin b).typeName target :=
  rfl

theorem typeName_withSeparator (target : Target) (separator : String) (t : TypeExpr) :
    t.typeName { target with pathSeparator := separator } = t.typeName target := by
  induction t with
  | builtin b => cases b <;> rfl
  | sequence item ih => rw [typeName, typeName, ih]; rfl
  | named d => rfl

/-- The path of a generated type is made of the root, its module and its name, as far as the first
two are there. -/
theorem qualifiedName_named (target : Target) (root : Option String) (d : Declared) :
    (named d).qualifiedName target root = target.pathSeparator.intercalate
      (root.toList ++
        (if (named d).moduleName target = "" then [] else [(named d).moduleName target]) ++
        [(named d).typeName target]) := by
  by_cases h : target.moduleOf d.package = "" <;>
    simp [qualifiedName, moduleName, innermost, typeName, h]

section

attribute [local instance] Text.Transliteration.byScript Text.SnakeCasing.byCapitals

/-- An empty root is there, and an empty module is not. -/
example : (sequence (named ⟨"//", "Cart", .object⟩)).qualifiedName .rust (some "") = "Vec<::Cart>" := by
  cbv

end

/-- How a reference is written depends on its innermost type and on the number of sequences. -/
theorem rendered_by_layers (target : Target) (root : Option String) (t : TypeExpr) :
    t.innermost.nest t.depth = t ∧
      t.innermost.innermost = t.innermost ∧
      t.typeName target =
        repeated t.depth target.sequenceOpen ++ t.innermost.typeName target ++
          repeated t.depth target.sequenceClose ∧
      t.qualifiedName target root =
        repeated t.depth target.sequenceOpen ++ t.innermost.qualifiedName target root ++
          repeated t.depth target.sequenceClose ∧
      t.moduleName target = t.innermost.moduleName target ∧
      ((∃ b, t.innermost = .builtin b ∧ ∀ (separator : String) (root' : Option String),
          t.innermost.qualifiedName { target with pathSeparator := separator } root' =
            t.innermost.typeName target) ∨
        ∃ d, t.innermost = .named d ∧
          t.innermost.qualifiedName target root = target.pathSeparator.intercalate
            (root.toList ++ (if t.moduleName target = "" then [] else [t.moduleName target]) ++
              [t.innermost.typeName target])) := by
  refine ⟨t.nest_innermost, t.innermost_innermost, ?_, ?_, (moduleName_innermost target t).symm, ?_⟩
  · rw [typeName_eq_sequences, Target.sequences_eq_repeated]
  · rw [qualifiedName_eq_sequences, Target.sequences_eq_repeated]
  · rw [← moduleName_innermost]
    rcases t.builtin_or_named_innermost with ⟨b, hb⟩ | ⟨d, hd⟩
    · refine Or.inl ⟨b, hb, fun separator root' => ?_⟩
      rw [hb, qualifiedName_builtin, typeName_withSeparator]
    · refine Or.inr ⟨d, hd, ?_⟩
      rw [hd]
      exact qualifiedName_named target root d

end TypeExpr
end SchemaBinding
