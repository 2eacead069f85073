import ClassChart.Proofs.Chart.Contents
import ClassChart.Proofs.Chart.Draft
import ClassChart.Proofs.Diagram.Decoding
import ClassChart.Proofs.Text.Pieces

/-! How many lines the block of a type takes. Names come from declarations without a break in them,
but a type text is shown as it is written, with the breaks that may stand between its tokens. So a
block is as high as it is meant to be exactly if no type text in it is broken. -/
namespace ClassChart

/-- No name in the declaration has a break in it. -/
structure Declaration.Unbroken (d : Declaration) : Prop where
  name : '\n' ∉ d.name.toList
  members : ∀ decl ∈ d.members, '\n' ∉ decl.name.toList
  values : ∀ v ∈ d.values, '\n' ∉ v.toList

structure Outline.Unbroken (o : Outline) : Prop where
  name : '\n' ∉ o.name.toList
  members : ∀ m ∈ o.members, '\n' ∉ m.name.toList
  values : ∀ v ∈ o.values, '\n' ∉ v.toList

theorem merge_unbroken {rules : MergeRules} {ds : List Declaration} {o : Outline}
    (h : (merge rules ds).outcome = .ok o) (hds : ∀ d ∈ ds, d.Unbroken) : o.Unbroken := by
  cases ds with
  | nil => simp [merge] at h
  | cons first rest =>
    have hfirst := hds first List.mem_cons_self
    have houtline := (described_of_merge h).1
    rw [described] at houtline
    split at houtline
    · rw [houtline]
      exact ⟨hfirst.name, by simp, hfirst.values⟩
    · rw [houtline]
      refine ⟨hfirst.name, fun m hm => ?_, by simp⟩
      obtain ⟨decl, hdecl, hmember⟩ := List.mem_filterMap.mp hm
      obtain ⟨d, hd, hdecl⟩ := List.mem_flatMap.mp hdecl
      rw [← (MemberDecl.of_member? hmember).2.1]
      exact (hds d hd).members decl hdecl

namespace Diagram
open Text

/-- The lines that a block is meant to take: its first and its last, one for a stereotype, and one
for each value or member. -/
def height (o : Outline) : Nat :=
  2 + (if o.kind = .class then 0 else 1) +
    if o.kind = .enum then o.values.length else o.members.length

def breaks (o : Outline) : Nat := (o.members.flatMap (·.typeText.toList)).count '\n'

theorem breaks_eq_zero_iff (o : Outline) :
    breaks o = 0 ↔ ∀ m ∈ o.members, '\n' ∉ m.typeText.toList := by
  simp only [breaks, List.count_eq_zero, List.mem_flatMap, not_exists, not_and]

theorem members_perm (o : Outline) : (o.properties ++ o.methods).Perm o.members := by
  have hforms : o.methods = o.members.filter fun m => !decide (m.form = .property) := by
    refine List.filter_congr fun m _ => ?_
    cases m.form <;> rfl
  rw [hforms]
  exact List.filter_append_perm _ _

theorem block_ne_nil (o : Outline) : block o ≠ [] := List.cons_ne_nil _ _

theorem length_block (o : Outline) : (block o).length = height o := by
  have hstereotype : (stereotype o.kind).length = if o.kind = .class then 0 else 1 := by
    cases o.kind <;> rfl
  have hcontent : (content o).length =
      if o.kind = .enum then o.values.length else o.members.length := by
    rw [content_eq]
    split
    · rfl
    · rw [List.length_map, (members_perm o).length_eq]
  simp only [block, height, List.cons_append, List.length_cons, List.length_append, List.length_map,
    List.length_nil, hstereotype, hcontent]
  omega

theorem count_typeText (t : String) : (typeText t).toList.count '\n' = t.toList.count '\n' := by
  rw [toList_typeText]
  split
  · next hempty =>
    rw [hempty]
    rfl
  · rw [List.count, List.countP_map]
    refine List.countP_congr fun c _ => ?_
    simp only [Function.comp_apply, beq_iff_eq]
    exact ⟨eq_of_tilde (by decide), fun hc => by simp [hc]⟩

theorem count_memberText {m : Member} (hname : '\n' ∉ m.name.toList) :
    (memberText m).toList.count '\n' = m.typeText.toList.count '\n' := by
  have hmarker : (marker m.visibility).toList.count '\n' = 0 := by cases m.visibility <;> rfl
  have hname := List.count_eq_zero.mpr hname
  unfold memberText
  cases m.form with
  | property =>
    simp [propertyText, List.count_append, hmarker, hname, count_typeText]
  | method =>
    simp [methodText, List.count_append, hmarker, hname, count_typeText]

theorem count_members {ms : List Member} (hnames : ∀ m ∈ ms, '\n' ∉ m.name.toList) :
    ((ms.map memberText).flatMap (·.toList)).count '\n' =
      (ms.flatMap (·.typeText.toList)).count '\n' := by
  induction ms with
  | nil => rfl
  | cons m rest ih =>
    obtain ⟨hname, hrest⟩ := List.forall_mem_cons.mp hnames
    simp only [List.map_cons, List.flatMap_cons, List.count_append, count_memberText hname, ih hrest]

theorem count_indent (ls : List String) :
    ((ls.map indent).flatMap (·.toList)).count '\n' = (ls.flatMap (·.toList)).count '\n' := by
  induction ls with
  | nil => rfl
  | cons l rest ih => simp [indent, ih]

section
variable {o : Outline} (h : o.Unbroken) (henum : o.kind = .enum → o.members = [])
include h henum

theorem count_content : ((content o).flatMap (·.toList)).count '\n' = breaks o := by
  rw [content_eq]
  split
  · next hkind =>
    rw [breaks, henum hkind]
    refine List.count_eq_zero.mpr fun hmem => ?_
    obtain ⟨v, hv, hbreak⟩ := List.mem_flatMap.mp hmem
    exact h.values v hv hbreak
  · have hnames : ∀ m ∈ o.properties ++ o.methods, '\n' ∉ m.name.toList :=
      fun m hm => h.members m ((members_perm o).mem_iff.mp hm)
    rw [count_members hnames, breaks, ((members_perm o).flatMap_right _).count_eq]

theorem count_block : ((block o).flatMap (·.toList)).count '\n' = breaks o := by
  have hname := List.count_eq_zero.mpr h.name
  have hstereotype : ((stereotype o.kind).flatMap (·.toList)).count '\n' = 0 := by
    cases o.kind <;> decide
  rw [block, List.flatMap_append, List.flatMap_cons, List.count_append, List.count_append,
    count_indent, List.flatMap_append, List.count_append, hstereotype, count_content h henum]
  simp [hname]

theorem length_lines_block : (lines (blockText o)).length = height o + breaks o := by
  rw [blockText, lines_intercalate (block_ne_nil o), length_flatMap_lines, length_block,
    count_block h henum]

theorem lines_block (hbreaks : breaks o = 0) : lines (blockText o) = block o := by
  have hunbroken : ∀ line ∈ block o, '\n' ∉ line.toList := by
    intro line hline hbreak
    have hnone := (count_block h henum).trans hbreaks
    exact List.count_eq_zero.mp hnone (List.mem_flatMap.mpr ⟨line, hline, hbreak⟩)
  rw [blockText, lines_intercalate (block_ne_nil o), flatMap_lines_of_unbroken hunbroken]

end

/-- The block of a merged type is higher than it is meant to be by the breaks in the type texts of
its members. Each value and each member has one line of its own exactly if there are none. -/
theorem block_height {rules : MergeRules} {ds : List Declaration} {o : Outline}
    (hmerge : (merge rules ds).outcome = .ok o) (hnames : ∀ d ∈ ds, d.Unbroken) :
    (lines (blockText o)).length = height o + breaks o ∧
      ((lines (blockText o)).length = height o ↔ ∀ m ∈ o.members, '\n' ∉ m.typeText.toList) ∧
      (lines (blockText o) = block o ↔ ∀ m ∈ o.members, '\n' ∉ m.typeText.toList) := by
  have hunbroken := merge_unbroken hmerge hnames
  have henum : o.kind = .enum → o.members = [] :=
    fun hkind => ((merge_outcome_sound hmerge).enum hkind).2.2
  have hlength := length_lines_block hunbroken henum
  rw [← breaks_eq_zero_iff]
  refine ⟨hlength, by omega, fun hlines => ?_, lines_block hunbroken henum⟩
  have hblock := length_block o
  rw [hlines] at hlength
  omega

def brokenOrder : Declaration :=
  ⟨"Order", "class", "a.cs", "", [], [], [],
    [⟨"Lines", "property", ["public"], "List<\n  Line>", 2⟩,
      ⟨"Total", "method", ["public"], "int", 4⟩], [], 1⟩

def brokenOutline : Outline :=
  ⟨"Order", .class, "Order", "", none, [],
    [⟨"Lines", .pub, .property, "List<\n  Line>", some "List", ["Line"]⟩,
      ⟨"Total", .pub, .method, "int", none, []⟩], []⟩

theorem brokenOrder_outcome :
    (merge ⟨⟨none, false, []⟩, ⟨none, false, []⟩, .pub⟩ [brokenOrder]).outcome =
      .ok brokenOutline := by
  have hkind : TypeKind.ofText? brokenOrder.kind = some .class := by decide
  have hfault : faultOf? .pub .class [brokenOrder] = none := by decide
  rw [merge_described hkind hfault]
  decide +kernel

theorem brokenOrder_unbroken : ∀ d ∈ [brokenOrder], d.Unbroken := by
  intro d hd
  obtain rfl := List.mem_singleton.mp hd
  exact ⟨by decide, by decide, by decide⟩

/-- Two members that take three lines. -/
theorem block_height_of_order :
    (∃ rules, (merge rules [brokenOrder]).outcome = .ok brokenOutline) ∧
      (∀ d ∈ [brokenOrder], d.Unbroken) ∧ height brokenOutline = 4 ∧
      (lines (blockText brokenOutline)).length = 5 := by
  have hbreaks : breaks brokenOutline = 1 := by decide
  refine ⟨⟨_, brokenOrder_outcome⟩, brokenOrder_unbroken, by decide, ?_⟩
  rw [(block_height brokenOrder_outcome brokenOrder_unbroken).1, hbreaks]
  decide

/-- That its type texts can be read does not make a block as high as it is meant to be. -/
theorem block_higher_than_meant : ∃ rules : MergeRules, ∃ d : Declaration, ∃ o,
    (merge rules [d]).outcome = .ok o ∧ d.Unbroken ∧
      (∀ decl ∈ d.members, (Signature.read decl.typeText).toOption.isSome) ∧
      lines (blockText o) = ["class Order \x7b", "  +List~", "  Line~ Lines", "  +Total() int", "\x7d"] ∧
      height o = 4 :=
  ⟨_, brokenOrder, brokenOutline, brokenOrder_outcome,
    brokenOrder_unbroken brokenOrder List.mem_cons_self, by decide +kernel, by decide +kernel,
    by decide⟩

end Diagram
end ClassChart
