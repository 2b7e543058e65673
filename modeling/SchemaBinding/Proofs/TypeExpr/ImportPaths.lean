import SchemaBinding.Proofs.Text.Pieces
import SchemaBinding.Proofs.TypeExpr.Path
import SchemaBinding.Text.Scripts
import Mathlib.Data.List.Nodup

/-! Import lines and the paths that they stand for. Main statement: the lines of a module stand for
the paths of those references that come from other modules, each of them once. -/
namespace SchemaBinding
namespace Imports

open SchemaBinding.Path Text

/-- The names in a group, which commas divide; spaces in front of a name do not count. -/
def groupNames (cs : List Char) : List (List Char) :=
  (cs.splitOn ',').map fun name => name.dropWhile (· == ' ')

/-- The paths that a line stands for. A line that ends in a group stands for what is in front of the
group, followed by each of the names; any other line is a path itself. -/
def expandChars (cs : List Char) : List (List Char) :=
  match cs.reverse with
  | '}' :: rest =>
    match rest.dropWhile (· != '{') with
    | [] => [cs]
    | _ :: front =>
      (groupNames (rest.takeWhile (· != '{')).reverse).map fun name => front.reverse ++ name
  | _ => [cs]

def expand (line : String) : List String := (expandChars line.toList).map String.ofList

/-- Identifiers, and more generally nonempty texts of the characters of identifiers. -/
def IsWord (cs : List Char) : Prop := cs ≠ [] ∧ ∀ c ∈ cs, Text.isIdentChar c = true

theorem IsWord.not_mem {cs : List Char} (h : IsWord cs) {c : Char}
    (hc : Text.isIdentChar c = false) : c ∉ cs := by
  intro hmem
  have := h.2 c hmem
  simp [hc] at this

theorem IsWord.dropWhile_space {cs : List Char} (h : IsWord cs) :
    cs.dropWhile (· == ' ') = cs := by
  cases cs with
  | nil => rfl
  | cons c cs =>
    have hc : c ≠ ' ' := by
      rintro rfl
      exact h.not_mem (c := ' ') (by decide) List.mem_cons_self
    simp [hc]

theorem groupNames_of_isWord {n : List Char} (hn : IsWord n) : groupNames n = [n] := by
  have hcomma : ',' ∉ n := hn.not_mem (by decide)
  simp [groupNames, List.splitOn_eq_singleton hcomma, hn.dropWhile_space]

theorem groupNames_append {n : List Char} (hn : IsWord n) (cs : List Char) :
    groupNames (n ++ ',' :: cs) = n :: groupNames cs := by
  have hcomma : ',' ∉ n := hn.not_mem (by decide)
  simp [groupNames, List.splitOn_append_cons_self_of_not_mem hcomma, hn.dropWhile_space]

@[simp] theorem groupNames_space (cs : List Char) : groupNames (' ' :: cs) = groupNames cs := by
  simp only [groupNames, List.splitOn_cons_eq_if_modifyHead]
  cases cs.splitOn ',' <;> simp

theorem groupNames_intercalate {ns : List (List Char)} (hne : ns ≠ []) (hns : ∀ n ∈ ns, IsWord n) :
    groupNames ([',', ' '].intercalate ns) = ns := by
  induction ns with
  | nil => exact absurd rfl hne
  | cons n ns ih =>
    have hn := hns n (by simp)
    by_cases hrest : ns = []
    · subst hrest
      simp [groupNames_of_isWord hn]
    · have hih := ih hrest fun m hm => hns m (by simp [hm])
      rw [List.intercalate_cons_of_ne_nil hrest]
      simp [groupNames_append hn, hih]

theorem expandChars_append_word (front : List Char) {n : List Char} (hn : IsWord n) :
    expandChars (front ++ n) = [front ++ n] := by
  obtain ⟨init, c, rfl⟩ := (List.eq_nil_or_concat n).resolve_left hn.1
  have hc : c ≠ '}' := by
    rintro rfl
    exact hn.not_mem (c := '}') (by decide) (by simp)
  simp [expandChars, hc]

theorem expandChars_append_group (front : List Char) {ns : List (List Char)} (hne : ns ≠ [])
    (hns : ∀ n ∈ ns, IsWord n) :
    expandChars (front ++ '{' :: [',', ' '].intercalate ns ++ ['}']) =
      ns.map fun n => front ++ n := by
  have hinner : ∀ c ∈ ([',', ' '].intercalate ns).reverse, (c != '{') = true := by
    intro c hc
    rw [bne_iff_ne]
    rintro rfl
    rcases Text.mem_intercalate (List.mem_reverse.mp hc) with hc | ⟨n, hn, hc⟩
    · exact absurd hc (by decide)
    · exact (hns n hn).not_mem (by decide) hc
  simp [expandChars, List.takeWhile_append_of_pos hinner, List.dropWhile_append_of_pos hinner,
    groupNames_intercalate hne hns]

theorem toList_group_cons_cons (m n : String) (names : List String) :
    (group (m :: n :: names)).toList =
      '{' :: [',', ' '].intercalate ((m :: n :: names).map String.toList) ++ ['}'] := by
  simp [group, String.toList_intercalate]

theorem group_ne_empty {names : List String} (hne : names ≠ [])
    (hnames : ∀ n ∈ names, IsWord n.toList) : group names ≠ "" := by
  rcases names with _ | ⟨m, _ | ⟨n, names⟩⟩
  · exact absurd rfl hne
  · have hm := (hnames m (by simp)).1
    simpa [group] using hm
  · intro h
    have hlist := toList_group_cons_cons m n names
    simp [h] at hlist

theorem toList_line (root module : String) {names : List String} (h : group names ≠ "") :
    (line root module names).toList =
      stem (part root ++ part module) ++ (group names).toList := by
  have hparts : (([root, module, group names].filter fun p => !p.isEmpty).map String.toList) =
      part root ++ part module ++ [(group names).toList] := by
    by_cases hr : root = "" <;> by_cases hm : module = "" <;> simp [part, hr, hm, h]
  rw [line, String.toList_intercalate, hparts]
  exact intercalate_concat _ _

def Entry.path (root : String) (e : Entry) : String :=
  String.ofList (stem (part root ++ part e.module) ++ e.name.toList)

theorem Entry.path_inj {root : String} {e f : Entry} (he : IsWord e.name.toList)
    (hf : IsWord f.name.toList) : e.path root = f.path root ↔ e = f := by
  constructor
  · intro h
    have hchars := String.ofList_injective h
    obtain ⟨hstem, hname⟩ :=
      (stem_append_inj (he.not_mem (by decide)) (hf.not_mem (by decide))).mp hchars
    simp only [stem_append] at hstem
    have hmodule := stem_part_injective (List.append_cancel_left hstem)
    cases e
    cases f
    simp_all [String.toList_inj]
  · rintro rfl
    rfl

theorem expand_line (root module : String) {names : List String} (hne : names ≠ [])
    (hnames : ∀ n ∈ names, IsWord n.toList) :
    expand (line root module names) = names.map fun n => Entry.path root ⟨module, n⟩ := by
  rw [expand, toList_line root module (group_ne_empty hne hnames)]
  rcases names with _ | ⟨m, _ | ⟨n, names⟩⟩
  · exact absurd rfl hne
  · rw [show group [m] = m from rfl, expandChars_append_word _ (hnames m (by simp))]
    rfl
  · have hwords : ∀ w ∈ (m :: n :: names).map String.toList, IsWord w := by
      intro w hw
      obtain ⟨name, hname, rfl⟩ := List.mem_map.mp hw
      exact hnames name hname
    rw [toList_group_cons_cons, ← List.append_assoc, expandChars_append_group _ (by simp) hwords,
      List.map_map, List.map_map]
    rfl

/-- Names of generated types that can be exported: letters, digits, underscores and dots. -/
def IsName (name : String) : Prop :=
  name ≠ "" ∧ ∀ c ∈ name.toList, c.isAlphanum = true ∨ c = '_' ∨ c = '.'

instance (name : String) : Decidable (IsName name) :=
  decidable_of_iff
    (name ≠ "" ∧ name.toList.all (fun c => c.isAlphanum || c == '_' || c == '.') = true)
    (by simp [IsName, or_assoc])

theorem isWord_exportedName {name : String} (h : IsName name) :
    IsWord (Naming.exportedName name).toList := by
  refine ⟨by simpa [Naming.exportedName] using h.1, ?_⟩
  intro c hc
  simp only [Naming.exportedName, String.toList_ofList, List.mem_map] at hc
  obtain ⟨d, hd, rfl⟩ := hc
  rcases h.2 d hd with hd | rfl | rfl
  · by_cases hdot : d = '.'
    · subst hdot
      exact absurd hd (by decide)
    · simp [Text.isIdentChar, hdot, hd]
  · decide
  · decide

@[simp] theorem mem_namesFrom {es : List Entry} {module name : String} :
    name ∈ namesFrom es module ↔ ⟨module, name⟩ ∈ es := by
  simp only [namesFrom, mem_ascending, List.mem_map, List.mem_filter, beq_iff_eq]
  constructor
  · rintro ⟨e, ⟨he, rfl⟩, rfl⟩
    exact he
  · intro h
    exact ⟨_, ⟨h, rfl⟩, rfl⟩

@[simp] theorem mem_modules {es : List Entry} {module : String} :
    module ∈ modules es ↔ ∃ name, ⟨module, name⟩ ∈ es := by
  simp only [modules, mem_ascending, List.mem_map]
  constructor
  · rintro ⟨e, he, rfl⟩
    exact ⟨e.name, he⟩
  · rintro ⟨name, h⟩
    exact ⟨_, h, rfl⟩

theorem namesFrom_ne_nil {es : List Entry} {module : String} (h : module ∈ modules es) :
    namesFrom es module ≠ [] := by
  obtain ⟨name, hname⟩ := mem_modules.mp h
  exact List.ne_nil_of_mem (mem_namesFrom.mpr hname)

section

variable [Transliteration] [SnakeCasing]

theorem mem_entries {current : String} {refs : List TypeExpr} {e : Entry} :
    e ∈ entries current refs ↔
      ∃ t ∈ refs, ∃ d, t.innermost = .named d ∧ Naming.modulePath d.package ≠ current ∧
        e = ⟨Naming.modulePath d.package, Naming.exportedName d.name⟩ := by
  simp only [entries, List.mem_filter, List.mem_filterMap, Option.map_eq_some_iff, bne_iff_ne]
  constructor
  · rintro ⟨⟨t, ht, d, hd, rfl⟩, hcurrent⟩
    refine ⟨t, ht, d, ?_, hcurrent, rfl⟩
    cases hi : t.innermost <;> simp_all [TypeExpr.declared?]
  · rintro ⟨t, ht, d, hd, hcurrent, rfl⟩
    exact ⟨⟨t, ht, d, by simp [hd, TypeExpr.declared?], rfl⟩, hcurrent⟩

section

variable {refs : List TypeExpr} {current : String} (root : String)
  (hwords : ∀ e ∈ entries current refs, IsWord e.name.toList)

include hwords

theorem flatMap_expand_importLines :
    (importLines refs current root).flatMap expand =
      (modules (entries current refs)).flatMap fun module =>
        (namesFrom (entries current refs) module).map fun name => Entry.path root ⟨module, name⟩ := by
  rw [importLines, List.flatMap_map]
  refine List.flatMap_congr fun module hmodule => ?_
  refine expand_line root module (namesFrom_ne_nil hmodule) fun name hname => ?_
  exact hwords _ (mem_namesFrom.mp hname)

theorem mem_flatMap_expand_importLines {path : String} :
    path ∈ (importLines refs current root).flatMap expand ↔
      ∃ e ∈ entries current refs, path = e.path root := by
  rw [flatMap_expand_importLines root hwords]
  simp only [List.mem_flatMap, List.mem_map, mem_modules, mem_namesFrom]
  constructor
  · rintro ⟨module, -, name, h, rfl⟩
    exact ⟨_, h, rfl⟩
  · rintro ⟨e, he, rfl⟩
    exact ⟨e.module, ⟨e.name, he⟩, e.name, he, rfl⟩

theorem nodup_flatMap_expand_importLines :
    ((importLines refs current root).flatMap expand).Nodup := by
  rw [flatMap_expand_importLines root hwords, List.nodup_flatMap]
  constructor
  · intro module _
    refine (nodup_ascending _).map_on fun m hm n hn h => ?_
    have hpath := (Entry.path_inj (hwords _ (mem_namesFrom.mp hm))
      (hwords _ (mem_namesFrom.mp hn))).mp h
    exact (Entry.mk.inj hpath).2
  · refine (nodup_ascending _).imp fun {a b} hab path ha hb => ?_
    obtain ⟨m, hm, rfl⟩ := List.mem_map.mp ha
    obtain ⟨n, hn, h⟩ := List.mem_map.mp hb
    have hpath := (Entry.path_inj (hwords _ (mem_namesFrom.mp hn))
      (hwords _ (mem_namesFrom.mp hm))).mp h
    exact hab (Entry.mk.inj hpath).1.symm

end

/-- Import lines and paths agree: expanded, the lines are the paths of the references from other
modules, and no path comes twice. -/
theorem expand_imports (r : Resolver) (current : String) (refs : List TypeExpr)
    (hnames : ∀ t ∈ refs, ∀ d, t.innermost = .named d → IsName d.name) :
    ((r.imports refs current).flatMap expand).Nodup ∧
      ∀ path, path ∈ (r.imports refs current).flatMap expand ↔
        ∃ t ∈ refs, (∃ d, t.innermost = .named d) ∧ t.moduleName .rust ≠ current ∧
          path = r.rustPath t.innermost := by
  have hwords : ∀ e ∈ entries current refs, IsWord e.name.toList := by
    intro e he
    obtain ⟨t, ht, d, hd, -, rfl⟩ := mem_entries.mp he
    exact isWord_exportedName (hnames t ht d hd)
  have hpath : ∀ d : Declared, r.rustPath (.named d) =
      Entry.path r.rootModule ⟨Naming.modulePath d.package, Naming.exportedName d.name⟩ := by
    intro d
    rw [← String.toList_inj, r.toList_rustPath_named, Entry.path, String.toList_ofList]
  have hmodule : ∀ (t : TypeExpr) (d : Declared), t.innermost = .named d →
      t.moduleName .rust = Naming.modulePath d.package := by
    intro t d hd
    rw [TypeExpr.moduleName, hd]
    rfl
  refine ⟨nodup_flatMap_expand_importLines r.rootModule hwords, fun path => ?_⟩
  rw [Resolver.imports, mem_flatMap_expand_importLines r.rootModule hwords]
  constructor
  · rintro ⟨e, he, rfl⟩
    obtain ⟨t, ht, d, hd, hcurrent, rfl⟩ := mem_entries.mp he
    refine ⟨t, ht, ⟨d, hd⟩, ?_, ?_⟩
    · rwa [hmodule t d hd]
    · rw [hd, hpath]
  · rintro ⟨t, ht, ⟨d, hd⟩, hcurrent, rfl⟩
    rw [hmodule t d hd] at hcurrent
    exact ⟨_, mem_entries.mpr ⟨t, ht, d, hd, hcurrent, rfl⟩, by rw [hd, hpath]⟩

end

attribute [local instance] Transliteration.byScript SnakeCasing.byCapitals

theorem expand_imports_relative :
    let r := Resolver.ofConfig { Config.standard with rootModule := "" }
    let refs : List TypeExpr :=
      [.sequence (.sequence (.named ⟨"models/cart", "Cart.Draft", .object⟩)),
        .named ⟨"models/cart", "Cart", .object⟩, .named ⟨"/", "Money", .object⟩, .builtin .string,
        .named ⟨"models/order", "State", .enumeration⟩]
    (∀ t ∈ refs, ∀ d, t.innermost = .named d → IsName d.name) ∧
      r.imports refs "models_order" = ["Money", "models_cart::{Cart, Cart_Draft}"] ∧
      ((r.imports refs "models_order").flatMap expand).Nodup ∧
      ∀ path, path ∈ (r.imports refs "models_order").flatMap expand ↔
        ∃ t ∈ refs, (∃ d, t.innermost = .named d) ∧ t.moduleName .rust ≠ "models_order" ∧
          path = r.rustPath t.innermost := by
  intro r refs
  have hnames : ∀ t ∈ refs, ∀ d, t.innermost = .named d → IsName d.name := by
    intro t ht d hd
    simp only [refs, List.mem_cons, List.not_mem_nil, or_false] at ht
    rcases ht with rfl | rfl | rfl | rfl | rfl <;> cases hd <;> decide
  exact ⟨hnames, by decide +kernel, expand_imports r "models_order" refs hnames⟩

end Imports
end SchemaBinding
