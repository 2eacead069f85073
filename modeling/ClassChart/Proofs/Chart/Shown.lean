import ClassChart.Proofs.Chart.Relations
import Mathlib.Data.List.Find

/-! Links by what their ends show. Charts with the same outlines may number their boxes differently;
what the links of a box show depends only on its own outline and on the outlines that the chart has
by name. So leaving out the boxes of some names leaves out the links at them, and no others. -/
namespace ClassChart

/-- A link by what its ends show, without their serial numbers. -/
def Link.shown (l : Link) : Outline × Outline × LinkKind :=
  (l.source.outline, l.target.outline, l.kind)

namespace Chart
variable {chart chart' : Chart} {b b' : Box} {p : String → Bool}

theorem box?_outline (chart : Chart) (name : String) :
    (chart.box? name).map Box.outline =
      (chart.boxes.map Box.outline).find? (·.name == name) := by
  rw [List.find?_map]
  rfl

theorem other?_outline (chart : Chart) (b : Box) (name : String) :
    (chart.other? b name).map Box.outline =
      ((chart.box? name).map Box.outline).filter (·.name ≠ b.outline.name) := by
  unfold other?
  cases chart.box? name with
  | none => rfl
  | some c =>
    by_cases hname : c.name = b.name
    · have heq : c.outline.name = b.outline.name := hname
      simp [Option.filter, hname, heq]
    · have hne : ¬c.outline.name = b.outline.name := hname
      simp [Option.filter, hname, hne]

theorem linksTo_shown (chart : Chart) (b : Box) (kind : LinkKind) (names : List String) :
    (chart.linksTo b kind names).map Link.shown =
      (names.eraseDups.filterMap fun name => (chart.other? b name).map Box.outline).map
        fun o => (b.outline, o, kind) := by
  rw [linksTo, List.map_map, ← List.map_filterMap, List.map_map]
  rfl

theorem linksTo_shown_filter (p : String → Bool) (chart : Chart) (b : Box) (kind : LinkKind)
    (names : List String) :
    ((chart.linksTo b kind names).filter fun l => p l.target.name).map Link.shown =
      (names.eraseDups.filterMap fun name =>
        ((chart.other? b name).map Box.outline).filter fun o => p o.name).map
        fun o => (b.outline, o, kind) := by
  have hshown : ((chart.linksTo b kind names).filter fun l => p l.target.name).map Link.shown =
      ((chart.linksTo b kind names).map Link.shown).filter fun t => p t.2.1.name := by
    rw [List.filter_map]
    rfl
  rw [hshown, linksTo_shown, List.filter_map, ← List.filter_filterMap]
  rfl

/-- Where a chart has the outlines of some names only, the links of a box show what those of the
same outline show in the whole chart, less the ones that end at another name. -/
theorem linksOf_shown_filter (h : ∀ name, (chart'.box? name).map Box.outline =
      ((chart.box? name).map Box.outline).filter fun o => p o.name)
    (hb : b.outline = b'.outline) (suppress : Bool) :
    (chart'.linksOf suppress b').map Link.shown =
      ((chart.linksOf suppress b).filter fun l => p l.target.name).map Link.shown := by
  have hother : ∀ name, (chart'.other? b' name).map Box.outline =
      ((chart.other? b name).map Box.outline).filter fun o => p o.name := by
    intro name
    rw [other?_outline, other?_outline, h, hb, Option.filter_filter, Option.filter_filter]
    congr 1
    funext o
    rw [Bool.and_comm]
  have hto : ∀ (kind : LinkKind) (names : List String),
      (chart'.linksTo b' kind names).map Link.shown =
        ((chart.linksTo b kind names).filter fun l => p l.target.name).map Link.shown := by
    intro kind names
    simp only [linksTo_shown, linksTo_shown_filter, hother, hb]
  unfold linksOf
  cases suppress with
  | true => simp only [List.filter_append, List.map_append, hto, hb, if_pos, List.filter_nil]
  | false =>
    simp only [List.filter_append, List.map_append, hto, hb, if_neg Bool.false_ne_true]

theorem linksOf_shown (h : ∀ name, (chart.box? name).map Box.outline =
      (chart'.box? name).map Box.outline) (hb : b.outline = b'.outline) (suppress : Bool) :
    (chart.linksOf suppress b).map Link.shown = (chart'.linksOf suppress b').map Link.shown := by
  have heach : ∀ name, (chart'.box? name).map Box.outline =
      ((chart.box? name).map Box.outline).filter fun _ => true := by
    intro name
    rw [h]
    cases chart'.box? name <;> rfl
  have hall := linksOf_shown_filter (p := fun _ => true) heach hb suppress
  rw [hall, List.filter_true]

theorem box?_outline_filter
    (h : chart'.boxes.map Box.outline = (chart.boxes.map Box.outline).filter fun o => p o.name)
    (name : String) :
    (chart'.box? name).map Box.outline =
      ((chart.box? name).map Box.outline).filter fun o => p o.name := by
  rw [box?_outline, box?_outline, h, List.find?_filter]
  cases hfound : (chart.boxes.map Box.outline).find? (·.name == name) with
  | none =>
    refine List.find?_eq_none.mpr fun o ho => ?_
    simp [List.find?_eq_none.mp hfound o ho]
  | some o =>
    have hname : o.name = name := by simpa using List.find?_some hfound
    have hsame : ∀ o' ∈ chart.boxes.map Box.outline,
        decide (p o'.name = true ∧ (o'.name == name) = true) = (p o.name && o'.name == name) := by
      intro o' _
      by_cases heq : o'.name = name
      · simp [heq, hname]
      · simp [heq]
    rw [List.find?_congr hsame]
    cases hp : p o.name with
    | true => simp [Option.filter, hp, hfound]
    | false => simp [Option.filter, hp]

theorem relations_shown_filter (hd : chart.Distinct) (hd' : chart'.Distinct)
    (h : chart'.boxes.map Box.outline = (chart.boxes.map Box.outline).filter fun o => p o.name)
    (suppress : Bool) :
    (chart'.relations suppress).map Link.shown =
      ((chart.relations suppress).filter fun l => p l.source.name && p l.target.name).map
        Link.shown := by
  have hboxes : chart'.boxes.map Box.outline =
      (chart.boxes.filter fun b => p b.name).map Box.outline := by
    rw [h, List.filter_map]
    rfl
  calc (chart'.relations suppress).map Link.shown
      = chart'.boxes.flatMap fun b => (chart'.linksOf suppress b).map Link.shown := by
        rw [relations_eq hd', List.map_flatMap]
    _ = (chart.boxes.filter fun b => p b.name).flatMap fun b =>
          ((chart.linksOf suppress b).filter fun l => p l.target.name).map Link.shown :=
        flatMap_eq_of_forall₂ (forall₂_map_eq_iff.mpr hboxes) fun b b' hb =>
          linksOf_shown_filter (box?_outline_filter h) hb.symm suppress
    _ = (((chart.relations suppress).filter fun l => p l.source.name).filter
          fun l => p l.target.name).map Link.shown := by
        rw [filter_relations hd, List.filter_flatMap, List.map_flatMap]
    _ = ((chart.relations suppress).filter fun l => p l.source.name && p l.target.name).map
          Link.shown := by
        rw [List.filter_filter]
        simp only [Bool.and_comm]

end Chart
end ClassChart
