import ClassChart.Chart.Diagram
import ClassChart.Proofs.List.Separator

/-! A diagram as its lines, each with the break that ends it. -/
namespace ClassChart.Diagram

def ended (lines : List String) : String := String.join (lines.map (· ++ "\n"))

def linesOf (chart : Chart) : List String :=
  ["classDiagram", ""] ++ chart.boxes.flatMap (block ·.outline) ++ [""] ++ chart.links.map linkText

theorem ended_append (lines more : List String) : ended (lines ++ more) = ended lines ++ ended more := by
  simp only [ended, List.map_append, String.join_append]

theorem ended_eq {lines : List String} (h : lines ≠ []) :
    ended lines = "\n".intercalate lines ++ "\n" := by
  induction lines with
  | nil => exact absurd rfl h
  | cons line rest ih =>
    rw [ended, List.map_cons, String.join_cons]
    change line ++ "\n" ++ ended rest = _
    by_cases hrest : rest = []
    · simp [hrest, ended]
    · rw [ih hrest, String.intercalate_cons_of_ne_nil hrest]
      simp only [String.append_assoc]

theorem ended_inj {lines more : List String} (hl : ∀ line ∈ lines, '\n' ∉ line.toList)
    (hm : ∀ line ∈ more, '\n' ∉ line.toList) (h : ended lines = ended more) : lines = more := by
  have htoList (ls : List String) :
      (ended ls).toList = ls.flatMap fun line => line.toList ++ ['\n'] := by
    simp [ended, List.flatMap_map]
  have hlist := congrArg String.toList h
  rw [htoList, htoList] at hlist
  have hmap := map_eq_of_flatMap_concat hl hm hlist
  exact List.map_injective_iff.mpr (fun _ _ => String.toList_inj.mp) hmap

theorem ended_block (o : Outline) : ended (block o) = blockText o ++ "\n" :=
  ended_eq (List.cons_ne_nil _ _)

theorem ended_blocks (boxes : List Box) :
    ended (boxes.map (blockText ·.outline)) = ended (boxes.flatMap (block ·.outline)) := by
  induction boxes with
  | nil => rfl
  | cons b rest ih =>
    rw [List.flatMap_cons, ended_append, ended_block, ← ih]
    simp only [ended, List.map_cons, String.join_cons]

theorem body_eq (chart : Chart) : body chart = ended (linesOf chart) := by
  rw [body, ← ended_eq (by simp)]
  simp only [linesOf, ended_append, ended_blocks]

theorem render_eq (fenced : Bool) (chart : Chart) : render fenced chart =
    (if fenced then fence ++ "mermaid\n" else "") ++ ended (linesOf chart) ++
      (if fenced then fence ++ "\n" else "") := by
  cases fenced with
  | false => simp [render, body_eq]
  | true => simp [render, body_eq, String.append_assoc]

/-- The block of a box stands among the lines, and the line of a link after it; there are lines
before and between them. -/
theorem linesOf_shows {chart : Chart} {b : Box} {l : Link} (hb : b ∈ chart.boxes)
    (hl : l ∈ chart.links) : ∃ before between after, before ≠ [] ∧ between ≠ [] ∧
      linesOf chart = before ++ block b.outline ++ between ++ [linkText l] ++ after := by
  obtain ⟨bs, bs', hboxes⟩ := List.append_of_mem hb
  obtain ⟨ls, ls', hlinks⟩ := List.append_of_mem hl
  refine ⟨["classDiagram", ""] ++ bs.flatMap (block ·.outline),
    bs'.flatMap (block ·.outline) ++ [""] ++ ls.map linkText, ls'.map linkText, ?_, ?_, ?_⟩
  · simp
  · simp
  · simp [linesOf, hboxes, hlinks]

theorem render_shows (fenced : Bool) {chart : Chart} {b : Box} {l : Link} (hb : b ∈ chart.boxes)
    (hl : l ∈ chart.links) : ∃ before between after, render fenced chart =
      before ++ "\n" ++ blockText b.outline ++ "\n" ++ between ++ "\n" ++ linkText l ++ "\n" ++ after := by
  obtain ⟨before, between, after, hbefore, hbetween, hlines⟩ := linesOf_shows hb hl
  have hlink : ended [linkText l] = linkText l ++ "\n" := ended_eq (List.cons_ne_nil _ _)
  refine ⟨(if fenced then fence ++ "mermaid\n" else "") ++ "\n".intercalate before,
    "\n".intercalate between, ended after ++ (if fenced then fence ++ "\n" else ""), ?_⟩
  rw [render_eq, hlines, ended_append, ended_append, ended_append, ended_append, hlink, ended_block,
    ended_eq hbefore, ended_eq hbetween]
  simp only [String.append_assoc]

end ClassChart.Diagram
