import ClassChart.Proofs.Chart.Boxes
import ClassChart.Proofs.Diagram.Lines

/-! Adding boxes and setting links one after the other, in any order. As actions they work on the
chart in place and may fail on the way; the chart is what they left, whether they failed or not. -/
namespace ClassChart.Chart

abbrev Action := EStateM ChartError Chart Unit

namespace Action

def add (b : Box) : Action := do
  if (← get).contains b.name then throw (.duplicate b.name)
  modify fun chart => { chart with boxes := chart.boxes ++ [b] }

def check (b : Box) : Action := do
  unless (← get).owns b do throw (.foreignEnd b.name)

def checkAll (links : List Link) : Action := do
  for l in links do
    for b in l.ends do
      check b

def setLinks (links : List Link) : Action := do
  checkAll links
  modify fun chart => { chart with links := links }

end Action

/-- Going on with the new chart if there is one, and otherwise with the chart as it was. -/
def settle (chart : Chart) : Except ChartError Chart → EStateM.Result ChartError Chart Unit
  | .ok after => .ok () after
  | .error e => .error e chart

variable (chart : Chart)

theorem add_run (b : Box) : (Action.add b).run chart = chart.settle (chart.add b) := by
  unfold Chart.add
  cases h : chart.contains b.name with
  | true => simp [Action.add, h, settle]
  | false => simp [Action.add, h, settle]

theorem check_run (b : Box) : (Action.check b).run chart =
    if chart.owns b then .ok () chart else .error (.foreignEnd b.name) chart := by
  cases h : chart.owns b with
  | true => simp [Action.check, h]
  | false => simp [Action.check, h]

theorem checkAll_run (links : List Link) : (Action.checkAll links).run chart =
    match (links.flatMap Link.ends).find? (!chart.owns ·) with
    | some b => .error (.foreignEnd b.name) chart
    | none => .ok () chart := by
  unfold Action.checkAll
  induction links with
  | nil => rfl
  | cons l rest ih =>
    cases hs : chart.owns l.source with
    | false => simp [Link.ends, check_run, hs]
    | true =>
      cases ht : chart.owns l.target with
      | false => simp [Link.ends, check_run, hs, ht]
      | true => simpa [Link.ends, check_run, hs, ht] using ih

theorem setLinks_run (links : List Link) :
    (Action.setLinks links).run chart = chart.settle (chart.setLinks links) := by
  unfold Chart.setLinks Action.setLinks
  rw [EStateM.run_bind, checkAll_run]
  cases (links.flatMap Link.ends).find? (!chart.owns ·) with
  | some b => rfl
  | none => rfl

inductive Step where
  | add (b : Box)
  | setLinks (links : List Link)

namespace Step

def action : Step → Action
  | add b => Action.add b
  | setLinks links => Action.setLinks links

def take (chart : Chart) : Step → Except ChartError Chart
  | add b => chart.add b
  | setLinks links => chart.setLinks links

theorem action_run (step : Step) : step.action.run chart = chart.settle (step.take chart) := by
  cases step with
  | add b => exact add_run chart b
  | setLinks links => exact setLinks_run chart links

def after (chart : Chart) (step : Step) : Chart :=
  match step.action.run chart with
  | .ok _ chart => chart
  | .error _ chart => chart

def insertion (chart : Chart) (step : Step) : List Box :=
  match step, step.action.run chart with
  | .add b, .ok _ _ => [b]
  | _, _ => []

end Step

def run (chart : Chart) (steps : List Step) : Chart := steps.foldl Step.after chart

def insertions (chart : Chart) : List Step → List Box
  | [] => []
  | step :: rest => step.insertion chart ++ insertions (step.after chart) rest

/-- Names are distinct, and links end at boxes of the chart itself. -/
structure Intact (chart : Chart) : Prop where
  distinct : chart.Distinct
  ends : ∀ l ∈ chart.links, ∀ b ∈ l.ends, b ∈ chart.boxes

variable {chart}

theorem Intact.source_mem (h : chart.Intact) {l : Link} (hl : l ∈ chart.links) :
    l.source ∈ chart.boxes :=
  h.ends l hl l.source List.mem_cons_self

theorem Intact.target_mem (h : chart.Intact) {l : Link} (hl : l ∈ chart.links) :
    l.target ∈ chart.boxes :=
  h.ends l hl l.target (List.mem_cons_of_mem _ List.mem_cons_self)

theorem Step.after_eq (step : Step) :
    step.after chart = (step.take chart).toOption.getD chart := by
  rw [after, action_run]
  cases step.take chart with
  | error e => rfl
  | ok next => rfl

theorem Step.boxes_after (step : Step) :
    (step.after chart).boxes = chart.boxes ++ step.insertion chart := by
  rw [after_eq]
  cases step with
  | add b =>
    simp only [insertion, action_run, take, add_eq]
    split
    · exact (List.append_nil _).symm
    · rfl
  | setLinks links =>
    simp only [insertion, List.append_nil, take, Chart.setLinks]
    split
    · rfl
    · rfl

theorem Intact.after (h : chart.Intact) (step : Step) : (step.after chart).Intact := by
  rw [Step.after_eq]
  cases step with
  | add b =>
    cases hadd : chart.add b with
    | error e => simpa [Step.take, hadd, Except.toOption] using h
    | ok next =>
      obtain ⟨-, rfl⟩ := add_eq_ok_iff.mp hadd
      simp only [Step.take, hadd, Except.toOption, Option.getD_some]
      exact ⟨h.distinct.add hadd, fun l hl b hb => List.mem_append_left _ (h.ends l hl b hb)⟩
  | setLinks links =>
    simp only [Step.take, h.distinct.setLinks_eq]
    cases hfind : (links.flatMap Link.ends).find? (· ∉ chart.boxes) with
    | some b => exact h
    | none =>
      have hends := List.find?_eq_none.mp hfind
      refine ⟨h.distinct, fun l hl b hb => ?_⟩
      have hb := hends b (List.mem_flatMap.mpr ⟨l, hl, hb⟩)
      rwa [decide_eq_true_eq, not_not] at hb

theorem intact_empty : empty.Intact where
  distinct := distinct_empty
  ends _ hl := absurd hl List.not_mem_nil

theorem Intact.run (h : chart.Intact) (steps : List Step) : (run chart steps).Intact := by
  induction steps generalizing chart with
  | nil => exact h
  | cons step rest ih => exact ih (h.after step)

theorem run_boxes (chart : Chart) (steps : List Step) :
    (run chart steps).boxes = chart.boxes ++ insertions chart steps := by
  induction steps generalizing chart with
  | nil => exact (List.append_nil _).symm
  | cons step rest ih =>
    rw [insertions, ← List.append_assoc, ← step.boxes_after]
    exact ih (step.after chart)

theorem add_run_eq (b : Box) : (Action.add b).run chart =
    if b.name ∈ chart.boxes.map Box.name then .error (.duplicate b.name) chart
    else .ok () { chart with boxes := chart.boxes ++ [b] } := by
  rw [add_run, add_eq]
  split
  · rfl
  · rfl

theorem Intact.setLinks_run_eq (h : chart.Intact) (links : List Link) :
    (Action.setLinks links).run chart =
      match (links.flatMap Link.ends).find? (· ∉ chart.boxes) with
      | some b => .error (.foreignEnd b.name) chart
      | none => .ok () { chart with links := links } := by
  rw [setLinks_run, h.distinct.setLinks_eq]
  cases (links.flatMap Link.ends).find? (· ∉ chart.boxes) with
  | some b => rfl
  | none => rfl

/- A box that only looks like one of the chart is a stranger to it. -/
example : let a : Box := ⟨0, ⟨"A", .class, "A", "", none, [], [], []⟩⟩
    (Action.setLinks [⟨a, a, .dependency⟩, ⟨a, { a with serial := 1 }, .dependency⟩]).run ⟨[a], []⟩ =
      .error (.foreignEnd "A") ⟨[a], []⟩ := rfl

/-- What holds of a chart into which the boxes `inserted` went, in this order. -/
structure Integrity (inserted : List Box) (chart : Chart) : Prop where
  boxes : chart.boxes = inserted
  distinct : (inserted.map Box.name).Nodup
  box? : ∀ name b, chart.box? name = some b ↔ b ∈ inserted ∧ b.name = name
  contains : ∀ name, chart.contains name = true ↔ name ∈ inserted.map Box.name
  size : chart.size = inserted.length
  ends : ∀ l ∈ chart.links, ∀ b ∈ l.ends, b ∈ inserted
  /-- A name is taken once. -/
  add : ∀ b, (Action.add b).run chart =
    if b.name ∈ inserted.map Box.name then .error (.duplicate b.name) chart
    else .ok () { chart with boxes := inserted ++ [b] }
  /-- Links are replaced all at once, or stay because of the first stranger. -/
  setLinks : ∀ links, (Action.setLinks links).run chart =
    match (links.flatMap Link.ends).find? (· ∉ inserted) with
    | some b => .error (.foreignEnd b.name) chart
    | none => .ok () { chart with links := links }
  settles : ∀ step : Step, step.action.run chart = chart.settle (step.take chart)
  /-- A link is drawn in a diagram that has the blocks of both its ends. -/
  shown : ∀ fenced, ∀ l ∈ chart.links, ∀ b ∈ l.ends, ∃ before between after,
    Diagram.render fenced chart = before ++ "\n" ++ Diagram.blockText b.outline ++ "\n" ++
      between ++ "\n" ++ Diagram.linkText l ++ "\n" ++ after

theorem Intact.integrity (h : chart.Intact) : chart.Integrity chart.boxes where
  boxes := rfl
  distinct := h.distinct
  box? _ _ := h.distinct.box?_iff
  contains _ := contains_iff
  size := rfl
  ends := h.ends
  add b := add_run_eq b
  setLinks := h.setLinks_run_eq
  settles := Step.action_run chart
  shown fenced l hl b hb := Diagram.render_shows fenced (h.ends l hl b hb) hl

/-- Any steps at all, from the empty chart on. -/
theorem any_steps_keep_integrity (steps : List Step) :
    Integrity (insertions empty steps) (run empty steps) := by
  have hboxes : (run empty steps).boxes = insertions empty steps := run_boxes empty steps
  rw [← hboxes]
  exact (intact_empty.run steps).integrity

end ClassChart.Chart
