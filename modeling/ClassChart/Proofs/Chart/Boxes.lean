import ClassChart.Chart.Basic
import Mathlib.Data.List.Nodup

/-! What adding boxes and setting links keeps: the names of a chart's boxes are distinct, so a box
is found by its name, and a chart owns exactly its boxes. -/
namespace ClassChart.Chart

def Distinct (chart : Chart) : Prop := (chart.boxes.map Box.name).Nodup

/-- The chart after an attempt to add each box in turn; a refused one changes nothing. -/
def addAll (chart : Chart) (bs : List Box) : Chart :=
  bs.foldl (fun chart b => (chart.add b).toOption.getD chart) chart

variable {chart : Chart} {b : Box} {name : String}

theorem box?_eq_some (h : chart.box? name = some b) : b ∈ chart.boxes ∧ b.name = name :=
  ⟨List.mem_of_find?_eq_some h, by simpa using List.find?_some h⟩

theorem box?_eq_none_iff : chart.box? name = none ↔ ∀ b ∈ chart.boxes, b.name ≠ name := by
  simp [box?]

theorem contains_eq_false_iff : chart.contains name = false ↔ ∀ b ∈ chart.boxes, b.name ≠ name := by
  rw [contains, ← box?_eq_none_iff, Option.isSome_eq_false_iff, Option.isNone_iff_eq_none]

theorem contains_iff : chart.contains name = true ↔ name ∈ chart.boxes.map Box.name := by
  simp [contains, box?]

theorem add_eq : chart.add b =
    if b.name ∈ chart.boxes.map Box.name then .error (.duplicate b.name)
    else .ok { chart with boxes := chart.boxes ++ [b] } := by
  simp only [add, contains_iff]

theorem add_eq_ok_iff {after : Chart} : chart.add b = .ok after ↔
    chart.contains b.name = false ∧ after = { chart with boxes := chart.boxes ++ [b] } := by
  unfold add
  cases chart.contains b.name with
  | true => simp
  | false => simp [eq_comm]

theorem distinct_empty : Distinct empty := List.nodup_nil

theorem Distinct.add {after : Chart} (h : chart.Distinct) (hadd : chart.add b = .ok after) :
    after.Distinct := by
  obtain ⟨hnew, rfl⟩ := add_eq_ok_iff.mp hadd
  have hnames := contains_eq_false_iff.mp hnew
  simpa [Distinct, List.nodup_append] using And.intro h hnames

theorem Distinct.addAll (h : chart.Distinct) (bs : List Box) : (chart.addAll bs).Distinct := by
  induction bs generalizing chart with
  | nil => exact h
  | cons b rest ih =>
    refine ih ?_
    cases hadd : chart.add b with
    | error e => simpa [hadd, Except.toOption] using h
    | ok after => simpa [hadd, Except.toOption] using h.add hadd

theorem Distinct.eq_of_name (h : chart.Distinct) {c : Box} (hb : b ∈ chart.boxes)
    (hc : c ∈ chart.boxes) (hname : b.name = c.name) : b = c :=
  List.inj_on_of_nodup_map h hb hc hname

theorem Distinct.box?_of_mem (h : chart.Distinct) (hb : b ∈ chart.boxes) :
    chart.box? b.name = some b := by
  cases hbox : chart.box? b.name with
  | none => exact absurd rfl (box?_eq_none_iff.mp hbox b hb)
  | some c =>
    obtain ⟨hc, hname⟩ := box?_eq_some hbox
    rw [h.eq_of_name hc hb hname]

theorem Distinct.box?_iff (h : chart.Distinct) :
    chart.box? name = some b ↔ b ∈ chart.boxes ∧ b.name = name := by
  refine ⟨box?_eq_some, ?_⟩
  rintro ⟨hb, rfl⟩
  exact h.box?_of_mem hb

theorem Distinct.filter_name (h : chart.Distinct) (name : String) :
    chart.boxes.filter (·.name = name) = (chart.box? name).toList := by
  unfold Distinct at h
  unfold box?
  generalize chart.boxes = boxes at h ⊢
  induction boxes with
  | nil => rfl
  | cons b rest ih =>
    obtain ⟨hb, hrest⟩ := List.nodup_cons.mp h
    by_cases hname : b.name = name
    · have hnone : rest.filter (·.name = name) = [] := by
        refine List.filter_eq_nil_iff.mpr fun c hc => ?_
        have hne : c.name ≠ name := fun heq => by
          rw [hname, ← heq] at hb
          exact hb (List.mem_map_of_mem hc)
        simpa using hne
      simp [hname, hnone]
    · simpa [hname] using ih hrest

theorem Distinct.owns_iff (h : chart.Distinct) : chart.owns b = true ↔ b ∈ chart.boxes := by
  rw [owns, beq_iff_eq, h.box?_iff, and_iff_left rfl]

/-- A stranger among the ends is one that is no box of the chart, whatever its name. -/
theorem Distinct.setLinks_eq (h : chart.Distinct) (links : List Link) : chart.setLinks links =
    match (links.flatMap Link.ends).find? (· ∉ chart.boxes) with
    | some b => .error (.foreignEnd b.name)
    | none => .ok { chart with links := links } := by
  have howns : (fun b => !chart.owns b) = fun b => decide (b ∉ chart.boxes) := by
    funext b
    simp [← h.owns_iff]
  cases hfind : (links.flatMap Link.ends).find? (· ∉ chart.boxes) with
  | some b => simp only [setLinks, howns, hfind]
  | none => simp only [setLinks, howns, hfind]

theorem Distinct.setLinks_eq_ok (h : chart.Distinct) {links : List Link}
    (hlinks : ∀ l ∈ links, l.source ∈ chart.boxes ∧ l.target ∈ chart.boxes) :
    chart.setLinks links = .ok { chart with links := links } := by
  have hnone : (links.flatMap Link.ends).find? (· ∉ chart.boxes) = none := by
    refine List.find?_eq_none.mpr fun b hb => ?_
    obtain ⟨l, hl, hend⟩ := List.mem_flatMap.mp hb
    obtain ⟨hsource, htarget⟩ := hlinks l hl
    simp only [Link.ends, List.mem_cons, List.not_mem_nil, or_false] at hend
    rcases hend with rfl | rfl
    · simp [hsource]
    · simp [htarget]
  simp only [h.setLinks_eq, hnone]

end ClassChart.Chart
