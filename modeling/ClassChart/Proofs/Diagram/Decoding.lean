import ClassChart.Proofs.Chart.Steps
import ClassChart.Proofs.Diagram.Members
import ClassChart.Proofs.Signature.Identifier

/-! Reading a diagram back. Its lines are found again in the text; the braces and the empty line
show where one block ends and the next begins, and each line what it is a line of. -/
namespace ClassChart.Diagram

/-- Names and type texts that a line can be read back from. -/
structure Legible (o : Outline) : Prop where
  name : Plain o.name
  values : ∀ v ∈ o.values, Plain v
  members : ∀ m ∈ o.members, Plain m.name ∧ OneLine m.typeText

section
variable {o o' : Outline}

theorem content_eq (o : Outline) : content o =
    if o.kind = .enum then o.values else (o.properties ++ o.methods).map memberText := by
  have hproperties : o.properties.map memberText = o.properties.map propertyText :=
    List.map_congr_left fun m hm => by
      have hform : m.form = .property := by simpa using (List.mem_filter.mp hm).2
      rw [memberText, hform]
  have hmethods : o.methods.map memberText = o.methods.map methodText :=
    List.map_congr_left fun m hm => by
      have hform : m.form = .method := by simpa using (List.mem_filter.mp hm).2
      rw [memberText, hform]
  rw [content, List.map_append, hproperties, hmethods]

/-- What a diagram shows of a type: the values of an enum, the members of any other. -/
structure Shown where
  name : String
  kind : TypeKind
  values : List String
  properties : List (Visibility × String × String)
  methods : List (Visibility × String × String)

def shown (o : Outline) : Shown :=
  if o.kind = .enum then ⟨o.name, o.kind, o.values, [], []⟩
  else ⟨o.name, o.kind, [], o.properties.map signature, o.methods.map signature⟩

/-- A block without the line that closes it. -/
def front (o : Outline) : List String :=
  ("class " ++ o.name ++ " \x7b") :: (stereotype o.kind ++ content o).map indent

theorem block_eq (o : Outline) : block o = front o ++ ["\x7d"] := rfl

def startsWithAngle (line : String) : Bool := line.toList.head? = some '<'

theorem angle_memberText (m : Member) : startsWithAngle (memberText m) = false := by
  unfold memberText startsWithAngle
  cases m.form with
  | property =>
    unfold propertyText
    cases m.visibility <;> simp [marker]
  | method =>
    unfold methodText
    cases m.visibility <;> simp [marker]

theorem angle_stereotype (kind : TypeKind) :
    ∀ line ∈ stereotype kind, startsWithAngle line = true := by
  cases kind <;> simp [stereotype, startsWithAngle]

theorem stereotype_inj {kind kind' : TypeKind} (h : stereotype kind = stereotype kind') :
    kind = kind' := by
  cases kind <;> cases kind' <;> first | rfl | exact absurd h (by decide)

theorem Legible.angle_content (h : Legible o) :
    ∀ line ∈ content o, startsWithAngle line = false := by
  rw [content_eq]
  split
  · intro v hv
    have hmem : '<' ∉ v.toList := (h.values v hv).not_mem (by decide)
    exact decide_eq_false fun hhead => hmem (List.mem_of_mem_head? hhead)
  · intro line hline
    obtain ⟨m, -, rfl⟩ := List.mem_map.mp hline
    exact angle_memberText m

theorem Legible.filter_angle (h : Legible o) :
    (stereotype o.kind ++ content o).filter startsWithAngle = stereotype o.kind := by
  have hnone : (content o).filter startsWithAngle = [] :=
    List.filter_eq_nil_iff.mpr fun line hline => by simp [h.angle_content line hline]
  rw [List.filter_append, List.filter_eq_self.mpr (angle_stereotype o.kind), hnone, List.append_nil]

theorem Legible.filter_not_angle (h : Legible o) :
    (stereotype o.kind ++ content o).filter (!startsWithAngle ·) = content o := by
  have hnone : (stereotype o.kind).filter (!startsWithAngle ·) = [] :=
    List.filter_eq_nil_iff.mpr fun line hline => by simp [angle_stereotype o.kind line hline]
  have hall : (content o).filter (!startsWithAngle ·) = content o :=
    List.filter_eq_self.mpr fun line hline => by simp [h.angle_content line hline]
  rw [List.filter_append, hnone, hall, List.nil_append]

def face (m : Member) : MemberForm × Visibility × String × String := (m.form, signature m)

theorem faces_form (o : Outline) (form : MemberForm) :
    (((o.properties ++ o.methods).map face).filter (·.1 = form)).map Prod.snd =
      (o.members.filter (·.form = form)).map signature := by
  have hface (ms : List Member) : ((ms.map face).filter (·.1 = form)).map Prod.snd =
      (ms.filter (·.form = form)).map signature := by
    rw [List.filter_map, List.map_map]
    rfl
  rw [hface, Outline.properties, Outline.methods, List.filter_append, List.filter_filter,
    List.filter_filter]
  cases form <;> simp +contextual

theorem Legible.mem_members (h : Legible o) {m : Member} (hm : m ∈ o.properties ++ o.methods) :
    Plain m.name ∧ OneLine m.typeText := by
  rcases List.mem_append.mp hm with hm | hm
  · exact h.members m (List.mem_filter.mp hm).1
  · exact h.members m (List.mem_filter.mp hm).1

theorem shown_eq_of_content (h : Legible o) (h' : Legible o') (hname : o.name = o'.name)
    (hkind : o.kind = o'.kind) (hcontent : content o = content o') : shown o = shown o' := by
  rw [content_eq, content_eq, ← hkind] at hcontent
  by_cases henum : o.kind = .enum
  · rw [if_pos henum, if_pos henum] at hcontent
    rw [shown, shown, ← hkind, if_pos henum, if_pos henum, hname, hcontent]
  · rw [if_neg henum, if_neg henum] at hcontent
    have hfaces : (o.properties ++ o.methods).map face = (o'.properties ++ o'.methods).map face := by
      refine map_eq_of_map_eq (fun m hm m' hm' heq => ?_) hcontent
      obtain ⟨hn, ht⟩ := h.mem_members hm
      obtain ⟨hn', ht'⟩ := h'.mem_members hm'
      obtain ⟨hform, hsignature⟩ := memberText_inj hn hn' ht ht' heq
      rw [face, face, hform, hsignature]
    have hof (form : MemberForm) : (o.members.filter (·.form = form)).map signature =
        (o'.members.filter (·.form = form)).map signature := by
      rw [← faces_form, ← faces_form, hfaces]
    have hproperties : o.properties.map signature = o'.properties.map signature := hof .property
    have hmethods : o.methods.map signature = o'.methods.map signature := hof .method
    rw [shown, shown, ← hkind, if_neg henum, if_neg henum, hname, hproperties, hmethods]

theorem shown_eq_of_front (h : Legible o) (h' : Legible o') (hfront : front o = front o') :
    shown o = shown o' := by
  obtain ⟨hheader, hlines⟩ := List.cons.inj hfront
  have hname : o.name = o'.name :=
    (String.append_right_inj _).mp ((String.append_left_inj _).mp hheader)
  have hindent : Function.Injective indent := fun s t hst => (String.append_right_inj _).mp hst
  have hall := List.map_injective_iff.mpr hindent hlines
  have hkind : stereotype o.kind = stereotype o'.kind := by
    rw [← h.filter_angle, hall, h'.filter_angle]
  have hcontent : content o = content o' := by
    rw [← h.filter_not_angle, hall, h'.filter_not_angle]
  exact shown_eq_of_content h h' hname (stereotype_inj hkind) hcontent

theorem Legible.block_unbroken (h : Legible o) : ∀ line ∈ block o, '\n' ∉ line.toList := by
  have hname : '\n' ∉ o.name.toList := h.name.not_mem (by decide)
  have hstereotype : ∀ line ∈ stereotype o.kind, '\n' ∉ line.toList := by
    cases o.kind <;> simp [stereotype]
  have hcontent : ∀ line ∈ content o, '\n' ∉ line.toList := by
    rw [content_eq]
    split
    · exact fun v hv => (h.values v hv).not_mem (by decide)
    · intro line hline
      obtain ⟨m, hm, rfl⟩ := List.mem_map.mp hline
      obtain ⟨hn, ht⟩ := h.mem_members hm
      exact memberText_unbroken hn ht
  intro line hline
  rw [block_eq, front] at hline
  rcases List.mem_append.mp hline with hline | hline
  · rcases List.mem_cons.mp hline with rfl | hline
    · simp [hname]
    · obtain ⟨text, hmem, rfl⟩ := List.mem_map.mp hline
      have htext := List.forall_mem_append.mpr ⟨hstereotype, hcontent⟩ text hmem
      simp [indent, htext]
  · rw [List.mem_singleton.mp hline]
    decide

/-- The lines before the brace start with the word `class` or with blanks. -/
theorem not_mem_front {line : String} (hc : line.toList.head? ≠ some 'c')
    (hblank : line.toList.head? ≠ some ' ') (o : Outline) : line ∉ front o := by
  intro hline
  rcases List.mem_cons.mp hline with rfl | hline
  · simp at hc
  · obtain ⟨text, -, rfl⟩ := List.mem_map.mp hline
    simp [indent] at hblank

end

section
variable {l l' : Link}

theorem linkText_unbroken (hs : Plain l.source.name) (ht : Plain l.target.name) :
    '\n' ∉ (linkText l).toList := by
  have hsource : '\n' ∉ l.source.name.toList := hs.not_mem (by decide)
  have htarget : '\n' ∉ l.target.name.toList := ht.not_mem (by decide)
  unfold linkText
  cases l.kind <;> simp [hsource, htarget]

def tailText (l : Link) : List Char :=
  match l.kind with
  | .inheritance => "<|-- ".toList ++ l.source.name.toList
  | .implementation => "<|.. ".toList ++ (l.source.name.toList ++ " : implements".toList)
  | .dependency => "<-- ".toList ++ l.source.name.toList

theorem toList_linkText (l : Link) :
    (linkText l).toList = l.target.name.toList ++ ' ' :: tailText l := by
  unfold linkText tailText
  cases l.kind <;> simp

theorem tailText_inj (h : tailText l = tailText l') :
    l.source.name = l'.source.name ∧ l.kind = l'.kind := by
  unfold tailText at h
  have hkind : l.kind = l'.kind := by
    cases hl : l.kind <;> cases hl' : l'.kind <;> first | rfl | simp [hl, hl'] at h
  rw [hkind] at h
  refine ⟨String.toList_inj.mp ?_, hkind⟩
  cases hl' : l'.kind with
  | inheritance => simpa [hl'] using h
  | implementation => simpa [hl'] using h
  | dependency => simpa [hl'] using h

theorem linkText_inj (ht : Plain l.target.name) (ht' : Plain l'.target.name)
    (h : linkText l = linkText l') : l.key = l'.key := by
  have hlist := congrArg String.toList h
  rw [toList_linkText, toList_linkText] at hlist
  obtain ⟨htarget, htail⟩ :=
    append_cons_inj (ht.not_mem (by decide)) (ht'.not_mem (by decide)) hlist
  obtain ⟨hsource, hkind⟩ := tailText_inj htail
  rw [Link.key, hsource, String.toList_inj.mp htarget, hkind, Link.key]

end

section
variable {chart chart' : Chart}

theorem linesOf_unbroken (h : chart.Intact) (hl : ∀ b ∈ chart.boxes, Legible b.outline) :
    ∀ line ∈ linesOf chart, '\n' ∉ line.toList := by
  simp only [linesOf, List.forall_mem_append]
  refine ⟨⟨⟨by decide, fun line hline => ?_⟩, by decide⟩, fun line hline => ?_⟩
  · obtain ⟨b, hb, hline⟩ := List.mem_flatMap.mp hline
    exact (hl b hb).block_unbroken line hline
  · obtain ⟨l, hmem, rfl⟩ := List.mem_map.mp hline
    exact linkText_unbroken (hl _ (h.source_mem hmem)).name (hl _ (h.target_mem hmem)).name

theorem empty_not_mem_blocks (boxes : List Box) : "" ∉ boxes.flatMap (block ·.outline) := by
  intro hmem
  obtain ⟨b, -, hline⟩ := List.mem_flatMap.mp hmem
  rw [block_eq] at hline
  rcases List.mem_append.mp hline with hline | hline
  · exact not_mem_front (by decide) (by decide) b.outline hline
  · simp at hline

theorem render_inj (h : chart.Intact) (h' : chart'.Intact)
    (hl : ∀ b ∈ chart.boxes, Legible b.outline) (hl' : ∀ b ∈ chart'.boxes, Legible b.outline)
    {fenced : Bool} (heq : render fenced chart = render fenced chart') :
    chart.boxes.map (shown ·.outline) = chart'.boxes.map (shown ·.outline) ∧
      chart.links.map Link.key = chart'.links.map Link.key := by
  rw [render_eq, render_eq, String.append_left_inj, String.append_right_inj] at heq
  have hlines := ended_inj (linesOf_unbroken h hl) (linesOf_unbroken h' hl') heq
  simp only [linesOf, List.append_assoc, List.append_cancel_left_eq, List.singleton_append] at hlines
  obtain ⟨hblocks, hlinks⟩ := append_cons_inj (empty_not_mem_blocks _) (empty_not_mem_blocks _) hlines
  constructor
  · have hbrace (b : Box) : "\x7d" ∉ front b.outline :=
      not_mem_front (by decide) (by decide) b.outline
    have hfronts := map_eq_of_flatMap_concat (f := fun b : Box => front b.outline)
      (fun b _ => hbrace b) (fun b _ => hbrace b) hblocks
    exact map_eq_of_map_eq (fun b hb b' hb' => shown_eq_of_front (hl b hb) (hl' b' hb')) hfronts
  · refine map_eq_of_map_eq (fun l hmem l' hmem' heq => ?_) hlinks
    exact linkText_inj (hl _ (h.target_mem hmem)).name (hl' _ (h'.target_mem hmem')).name heq

end

/-- Charts that steps lead to show the same where they are drawn the same. -/
theorem diagram_determines_chart (fenced : Bool) (steps steps' : List Chart.Step)
    (h : ∀ b ∈ (Chart.run .empty steps).boxes, Legible b.outline)
    (h' : ∀ b ∈ (Chart.run .empty steps').boxes, Legible b.outline)
    (heq : render fenced (Chart.run .empty steps) = render fenced (Chart.run .empty steps')) :
    (Chart.run .empty steps).boxes.map (shown ·.outline) =
        (Chart.run .empty steps').boxes.map (shown ·.outline) ∧
      (Chart.run .empty steps).links.map Link.key = (Chart.run .empty steps').links.map Link.key :=
  render_inj (Chart.intact_empty.run steps) (Chart.intact_empty.run steps') h h' heq

def clock (serial : Nat) (typeText : String) : Box where
  serial := serial
  outline := ⟨"Clock", .struct, "Clock", "", none, [],
    [⟨"@Stop", .intern, .method, typeText, none, []⟩], []⟩

def clockSteps (b : Box) : List Chart.Step := [.add b, .add b, .setLinks [⟨b, b, .dependency⟩]]

theorem run_clockSteps (b : Box) :
    Chart.run .empty (clockSteps b) = ⟨[b], [⟨b, b, .dependency⟩]⟩ := by
  simp [clockSteps, Chart.run, Chart.Step.after_eq, Chart.Step.take, Chart.add, Chart.contains,
    Chart.box?, Chart.empty, Chart.setLinks, Chart.owns, Link.ends, Except.toOption]

theorem plain_of_all {s : String} (h : s.toList.all (fun c => Text.isWordChar c || c == '@') = true) :
    Plain s := by
  intro c hc
  simpa using List.all_eq_true.mp h c hc

theorem oneLine_empty : OneLine "" := ⟨.inl rfl, by decide⟩

theorem oneLine_void : OneLine "void" := by
  have hread := Signature.Identifier.read_text ⟨false, 'v', ['o', 'i', 'd'], by decide,
    List.all_eq_true.mp (by decide)⟩ (by decide)
  exact ⟨.inr ⟨_, hread⟩, by decide⟩

theorem legible_clock {typeText : String} (serial : Nat) (h : OneLine typeText) :
    Legible (clock serial typeText).outline where
  name := plain_of_all (s := "Clock") (by decide)
  values := by simp [clock]
  members := by
    have hname : Plain "@Stop" := plain_of_all (by decide)
    simpa [clock] using And.intro hname h

theorem render_clock (serial serial' : Nat) :
    render true (Chart.run .empty (clockSteps (clock serial ""))) =
      render true (Chart.run .empty (clockSteps (clock serial' "void"))) := by
  have hvoid : typeText "void" = typeText "" := by
    rw [← String.toList_inj, toList_typeText, toList_typeText]
    decide
  have hlines (serial : Nat) (text : String) :
      linesOf (Chart.run .empty (clockSteps (clock serial text))) =
        ["classDiagram", "", "class Clock \x7b", "  <<struct>>", "  ~@Stop() " ++ typeText text,
          "\x7d", "", "Clock <-- Clock"] := by
    rw [run_clockSteps]
    rfl
  rw [render_eq, render_eq, hlines, hlines, hvoid]

/-- A method without a type is drawn like one that has the type `void`. -/
theorem diagram_determines_chart_of_void :
    render true (Chart.run .empty (clockSteps (clock 0 ""))) =
        render true (Chart.run .empty (clockSteps (clock 1 "void"))) ∧
      (Chart.run .empty (clockSteps (clock 0 ""))).boxes.map (shown ·.outline) =
        (Chart.run .empty (clockSteps (clock 1 "void"))).boxes.map (shown ·.outline) ∧
      (Chart.run .empty (clockSteps (clock 0 ""))).links.map Link.key =
        (Chart.run .empty (clockSteps (clock 1 "void"))).links.map Link.key := by
  have hlegible (serial : Nat) {text : String} (ht : OneLine text) :
      ∀ b ∈ (Chart.run .empty (clockSteps (clock serial text))).boxes, Legible b.outline := by
    rw [run_clockSteps]
    simpa using legible_clock serial ht
  exact ⟨render_clock 0 1, diagram_determines_chart true _ _ (hlegible 0 oneLine_empty)
    (hlegible 1 oneLine_void) (render_clock 0 1)⟩

end ClassChart.Diagram
