import SchemaBinding.Proofs.Text.ByteOrder
import SchemaBinding.Proofs.TypeExpr.ImportPaths
import SchemaBinding.Proofs.TypeExpr.Unambiguous
import Mathlib.Logic.Relation

/-! Import lines as a normal form. Main statement: there is one line for each other module, modules
and names come in the order of their bytes, and two lists of references have the same lines exactly
if they need the same names from the same modules. -/
namespace SchemaBinding

theorem ascending_eq_iff {α : Type} [Ord α] [Std.TransOrd α] [Std.LawfulEqOrd α] {xs ys : List α} :
    ascending xs = ascending ys ↔ ∀ a, a ∈ xs ↔ a ∈ ys := by
  constructor
  · intro h a
    rw [← mem_ascending, h, mem_ascending]
  · intro h
    have : Std.Irrefl fun x y : α => compare x y = .lt := ⟨fun x => by simp⟩
    have : Std.Antisymm fun x y : α => compare x y = .lt :=
      ⟨fun x y hxy hyx => absurd hyx (Std.OrientedCmp.not_lt_of_lt hxy)⟩
    refine (pairwise_ascending xs).eq_of_mem_iff (pairwise_ascending ys) fun a => ?_
    rw [mem_ascending, mem_ascending, h]

theorem pairwise_bytes_ascending (xs : List String) :
    (ascending xs).Pairwise fun s t => Text.bytes s < Text.bytes t := by
  refine (pairwise_ascending xs).imp fun {s t} h => ?_
  exact Text.bytes_lt_iff.mpr (compare_lt_iff_lt.mp h)

namespace Imports

open SchemaBinding.Path Text

/-- The names from one module. -/
structure Block where
  module : String
  names : List String

/-- A part of a path with the separator behind it, unless it is empty. -/
def lead (s : String) : String := if s = "" then "" else s ++ "::"

/-- One name stands by itself, several stand in braces. -/
structure Block.Shows (root : String) (b : Block) (line : String) : Prop where
  single : ∀ name, b.names = [name] → line = lead root ++ lead b.module ++ name
  several : 2 ≤ b.names.length →
    line = lead root ++ lead b.module ++ "\x7b" ++ ", ".intercalate b.names ++ "\x7d"

/-- The lines for a set of entries: a block for each module, with each of its names, and all in the
order of their bytes. -/
structure IsListing (root : String) (needed : Entry → Prop) (blocks : List Block)
    (lines : List String) : Prop where
  shows : List.Forall₂ (Block.Shows root) blocks lines
  modules_ascending :
    (blocks.map Block.module).Pairwise fun s t => Text.bytes s < Text.bytes t
  mem_modules : ∀ module, module ∈ blocks.map Block.module ↔ ∃ name, needed ⟨module, name⟩
  names_ascending : ∀ b ∈ blocks, b.names.Pairwise fun s t => Text.bytes s < Text.bytes t
  mem_names : ∀ b ∈ blocks, ∀ name, name ∈ b.names ↔ needed ⟨b.module, name⟩

theorem toList_lead (s : String) : (lead s).toList = stem (part s) := by
  by_cases hs : s = "" <;> simp [lead, part, hs]

theorem line_eq (root module : String) {names : List String} (h : group names ≠ "") :
    line root module names = lead root ++ lead module ++ group names := by
  rw [← String.toList_inj, toList_line root module h]
  simp [toList_lead]

theorem shows_line (root module : String) {names : List String} (hne : names ≠ [])
    (hnames : ∀ n ∈ names, IsWord n.toList) :
    Block.Shows root ⟨module, names⟩ (line root module names) := by
  rw [line_eq root module (group_ne_empty hne hnames)]
  constructor
  · rintro name rfl
    rfl
  · intro hlength
    rcases names with _ | ⟨m, _ | ⟨n, names⟩⟩
    · simp at hlength
    · simp at hlength
    · simp [group, String.append_assoc]

section

variable [Transliteration] [SnakeCasing]

/-- The entry of a reference to a type of another module. -/
def Needed (current : String) (refs : List TypeExpr) (e : Entry) : Prop :=
  ∃ t ∈ refs, ∃ d, t.innermost = .named d ∧ e.module = Naming.modulePath d.package ∧
    e.name = Naming.exportedName d.name ∧ e.module ≠ current

variable {current : String} {refs others : List TypeExpr}

theorem mem_entries_iff_needed {e : Entry} : e ∈ entries current refs ↔ Needed current refs e := by
  rw [mem_entries]
  constructor
  · rintro ⟨t, ht, d, hd, hcurrent, rfl⟩
    exact ⟨t, ht, d, hd, rfl, rfl, hcurrent⟩
  · rintro ⟨t, ht, d, hd, hmodule, hname, hcurrent⟩
    refine ⟨t, ht, d, hd, hmodule ▸ hcurrent, ?_⟩
    cases e
    simp_all

theorem isWord_of_mem_entries (hrefs : ∀ t ∈ refs, t.ProperlyNamed) {e : Entry}
    (he : e ∈ entries current refs) : IsWord e.name.toList := by
  obtain ⟨t, ht, d, hd, -, rfl⟩ := mem_entries.mp he
  have hname := (hrefs t ht).isTypeName hd
  apply isWord_exportedName
  constructor
  · rintro hempty
    obtain ⟨c, cs, hcs, -⟩ := hname
    simp [hempty] at hcs
  · intro c hc
    exact Or.inl (hname.isAlphanum hc)

theorem importLines_congr (root : String)
    (h : ∀ e, Needed current refs e ↔ Needed current others e) :
    importLines refs current root = importLines others current root := by
  have hentries : ∀ e, e ∈ entries current refs ↔ e ∈ entries current others := by
    intro e
    rw [mem_entries_iff_needed, h, mem_entries_iff_needed]
  have hmodules : modules (entries current refs) = modules (entries current others) := by
    rw [modules, modules, ascending_eq_iff]
    intro module
    simp only [List.mem_map, hentries]
  have hnames : namesFrom (entries current refs) = namesFrom (entries current others) := by
    funext module
    rw [namesFrom, namesFrom, ascending_eq_iff]
    intro name
    simp only [List.mem_map, List.mem_filter, hentries]
  simp only [importLines, hmodules, hnames]

theorem needed_of_importLines_eq {root : String} (hrefs : ∀ t ∈ refs, t.ProperlyNamed)
    (hothers : ∀ t ∈ others, t.ProperlyNamed)
    (h : importLines refs current root = importLines others current root) {e : Entry}
    (he : Needed current refs e) : Needed current others e := by
  rw [← mem_entries_iff_needed] at he ⊢
  -- Expanded, equal lines give equal paths, and a path gives its entry back.
  have hpath : e.path root ∈ (importLines refs current root).flatMap expand := by
    rw [mem_flatMap_expand_importLines root fun f => isWord_of_mem_entries hrefs]
    exact ⟨e, he, rfl⟩
  rw [h, mem_flatMap_expand_importLines root fun f => isWord_of_mem_entries hothers] at hpath
  obtain ⟨f, hf, hef⟩ := hpath
  have hname := isWord_of_mem_entries hrefs he
  rwa [(Entry.path_inj hname (isWord_of_mem_entries hothers hf)).mp hef]

theorem isListing_importLines (root : String) (hrefs : ∀ t ∈ refs, t.ProperlyNamed) :
    ∃ blocks, IsListing root (Needed current refs) blocks (importLines refs current root) := by
  let es := entries current refs
  let block := fun module => Block.mk module (namesFrom es module)
  have hmap : ((modules es).map block).map Block.module = modules es := by
    simp [block, Function.comp_def]
  refine ⟨(modules es).map block, ?_, ?_, ?_, ?_, ?_⟩
  · rw [importLines, List.forall₂_map_left_iff, List.forall₂_map_right_iff, List.forall₂_same]
    intro module hmodule
    refine shows_line root module (namesFrom_ne_nil hmodule) fun name hname => ?_
    exact isWord_of_mem_entries hrefs (mem_namesFrom.mp hname)
  · rw [hmap]
    exact pairwise_bytes_ascending _
  · intro module
    simp only [hmap, Imports.mem_modules, es, mem_entries_iff_needed]
  · intro b hb
    obtain ⟨module, -, rfl⟩ := List.mem_map.mp hb
    exact pairwise_bytes_ascending _
  · intro b hb name
    obtain ⟨module, -, rfl⟩ := List.mem_map.mp hb
    simp only [block, mem_namesFrom, es, mem_entries_iff_needed]

/-- Edits of a list of references that leave alone what is needed. -/
inductive Harmless (current : String) : List TypeExpr → List TypeExpr → Prop
  | reorder {refs others : List TypeExpr} (h : refs.Perm others) : Harmless current refs others
  | again {t : TypeExpr} {refs : List TypeExpr} (h : t ∈ refs) : Harmless current refs (t :: refs)
  | wrap (t : TypeExpr) (refs : List TypeExpr) :
      Harmless current (t :: refs) (.sequence t :: refs)
  | builtin (b : Builtin) (refs : List TypeExpr) : Harmless current refs (.builtin b :: refs)
  | ofKind (d : Declared) (kind : DeclKind) (refs : List TypeExpr) :
      Harmless current (.named d :: refs) (.named { d with kind } :: refs)
  | own {d : Declared} (h : Naming.modulePath d.package = current) (refs : List TypeExpr) :
      Harmless current refs (.named d :: refs)

theorem needed_cons {t : TypeExpr} {e : Entry} :
    Needed current (t :: refs) e ↔ Needed current [t] e ∨ Needed current refs e := by
  simp [Needed]

theorem needed_singleton_named {d : Declared} {e : Entry} :
    Needed current [.named d] e ↔ e.module = Naming.modulePath d.package ∧
      e.name = Naming.exportedName d.name ∧ e.module ≠ current := by
  simp [Needed, TypeExpr.innermost]

theorem Harmless.needed_iff (h : Harmless current refs others) (e : Entry) :
    Needed current refs e ↔ Needed current others e := by
  cases h with
  | reorder h => simp only [Needed, h.mem_iff]
  | again h =>
    rw [needed_cons, iff_or_self]
    rintro ⟨u, hu, hd⟩
    rw [List.mem_singleton.mp hu] at hd
    exact ⟨_, h, hd⟩
  | wrap t refs =>
    rw [needed_cons, needed_cons (t := .sequence t)]
    simp [Needed, TypeExpr.innermost]
  | builtin b refs =>
    rw [needed_cons]
    simp [Needed, TypeExpr.innermost]
  | ofKind d kind refs =>
    rw [needed_cons, needed_cons (t := .named { d with kind }), needed_singleton_named,
      needed_singleton_named]
  | own h refs =>
    rw [needed_cons, needed_singleton_named, iff_or_self]
    rintro ⟨hmodule, -, hcurrent⟩
    exact absurd (hmodule.trans h) hcurrent

theorem needed_iff_of_eqvGen (h : Relation.EqvGen (Harmless current) refs others) (e : Entry) :
    Needed current refs e ↔ Needed current others e := by
  induction h with
  | rel _ _ h => exact h.needed_iff e
  | refl _ => rfl
  | symm _ _ _ ih => exact ih.symm
  | trans _ _ _ _ _ ih₁ ih₂ => exact ih₁.trans ih₂

/-- Import lines are a normal form of the set of names that have to be imported. -/
theorem importLines_canonical (root current : String) (refs : List TypeExpr)
    (hrefs : ∀ t ∈ refs, t.ProperlyNamed) :
    (∃ blocks, IsListing root (Needed current refs) blocks (importLines refs current root)) ∧
      (∀ others : List TypeExpr, (∀ t ∈ others, t.ProperlyNamed) →
        (importLines refs current root = importLines others current root ↔
          ∀ e, Needed current refs e ↔ Needed current others e)) ∧
      ∀ others, Relation.EqvGen (Harmless current) refs others →
        importLines refs current root = importLines others current root := by
  refine ⟨isListing_importLines root hrefs, ?_, ?_⟩
  · intro others hothers
    constructor
    · intro h e
      exact ⟨needed_of_importLines_eq hrefs hothers h, needed_of_importLines_eq hothers hrefs h.symm⟩
    · exact importLines_congr root
  · intro others h
    exact importLines_congr root (needed_iff_of_eqvGen h)

end

attribute [local instance] Transliteration.byScript SnakeCasing.byCapitals

/-- A draft inside of a sequence, its cart, and an order from the module itself. -/
theorem importLines_canonical_cart :
    let refs : List TypeExpr :=
      [.sequence (.named ⟨"models/cart", "CartDraft", .object⟩),
        .named ⟨"models/order", "Order", .object⟩, .named ⟨"models/cart", "Cart", .enumeration⟩]
    let others : List TypeExpr := .builtin .string :: refs
    (∀ t ∈ refs, t.ProperlyNamed) ∧ (∀ t ∈ others, t.ProperlyNamed) ∧
      importLines refs "models_order" "crate" = ["crate::models_cart::{Cart, CartDraft}"] ∧
      Relation.EqvGen (Harmless "models_order") refs others ∧
      (∃ blocks, IsListing "crate" (Needed "models_order" refs) blocks
        ["crate::models_cart::{Cart, CartDraft}"]) ∧
      importLines others "models_order" "crate" = ["crate::models_cart::{Cart, CartDraft}"] ∧
      ∀ e, Needed "models_order" refs e ↔ Needed "models_order" others e := by
  intro refs others
  have hrefs : ∀ t ∈ refs, t.ProperlyNamed := by
    have hdraft : Naming.typeName "CartDraft" = .ok "CartDraft" := by cbv
    have horder : Naming.typeName "Order" = .ok "Order" := by cbv
    have hcart : Naming.typeName "Cart" = .ok "Cart" := by cbv
    intro t ht d hd
    simp only [refs, List.mem_cons, List.not_mem_nil, or_false] at ht
    rcases ht with rfl | rfl | rfl <;> cases hd
    exacts [⟨_, hdraft⟩, ⟨_, horder⟩, ⟨_, hcart⟩]
  have hothers : ∀ t ∈ others, t.ProperlyNamed := by
    refine List.forall_mem_cons.mpr ⟨?_, hrefs⟩
    rintro d ⟨⟩
  have hlines : importLines refs "models_order" "crate" =
      ["crate::models_cart::{Cart, CartDraft}"] := by decide +kernel
  have hharmless : Relation.EqvGen (Harmless "models_order") refs others :=
    .rel _ _ (.builtin .string refs)
  obtain ⟨hlisting, hiff, hsame⟩ := importLines_canonical "crate" "models_order" refs hrefs
  refine ⟨hrefs, hothers, hlines, hharmless, hlines ▸ hlisting, ?_, ?_⟩
  · rw [← hsame others hharmless, hlines]
  · exact (hiff others hothers).mp (hsame others hharmless)

end Imports
end SchemaBinding
