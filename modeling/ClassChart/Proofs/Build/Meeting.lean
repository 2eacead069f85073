import ClassChart.Proofs.Build.WellFormed
import ClassChart.Proofs.Signature.Identifier

/-! Whether a declared name and a reference to it meet. A declaration keeps its name as it is
written, with the `@` of a verbatim one; a type text refers to it without. So the two meet if the
name is plain, and miss each other if it is verbatim. -/
namespace ClassChart
open Signature

theorem Member.Shows.refers {rules : NameRules} {m : Member} {i : Identifier} (h : m.Shows rules)
    (htext : m.typeText = i.text) (hmodifier : i.word ∉ ["ref", "readonly", "scoped"])
    (hsurvives : survives rules (i.word, "") = true) : m.references = [i.word] := by
  rw [Member.Shows, htext, i.references_text rules hmodifier hsurvives] at h
  exact (congrArg References.names h).symm

/-- No member refers to a name with an `@` in front. -/
theorem Member.Shows.start {rules : NameRules} {m : Member} (h : m.Shows rules) :
    ∀ name ∈ m.references, name.toList.head?.any Text.isNameStart = true := by
  intro name hname
  rcases h.cases with hnone | ⟨found, hread, hnames⟩
  · simp [hnone] at hname
  · exact references_start hread name (hnames ▸ hname)

namespace Build

/-- Of two boxes, one of which is declared under an identifier that is the whole type text of a
member of the other, there is a dependency if the identifier has no `@`, and none if it has. -/
theorem declared_name_met (s : Settings) (units : List SourceUnit)
    (hsystem : s.excludeSystem = false) (hdependencies : s.ignoreDependencies = false) :
    ∃ r, ((Session.new s).buildUnits units).2 = .ok r ∧
      ∀ c ∈ r.chart.boxes, ∀ d ∈ r.chart.boxes, c ≠ d → ∀ i : Identifier, d.name = i.text →
        Names.isPrimitive d.name = false → i.word ∉ ["ref", "readonly", "scoped"] →
        (∃ m ∈ c.outline.members, m.typeText = d.name) →
          (⟨c, d, .dependency⟩ ∈ r.chart.links ↔ i.verbatim = false) := by
  obtain ⟨r, p, hbuild, hp, hchart, _⟩ := buildUnits_reached s units
  refine ⟨r, hbuild, ?_⟩
  rw [hchart, hdependencies]
  rintro c hc d hd hne i hname hprimitive hmodifier ⟨m, hm, htext⟩
  have hshows : ∀ m ∈ c.outline.members, m.Shows (rulesOf s units).references :=
    (hp.sound c hc).shows
  rw [Chart.dependency_mem_relations hp.distinct hc hd hne]
  cases hverbatim : i.verbatim with
  | false =>
    have hword : d.name = i.word := by rw [hname, Identifier.text_plain hverbatim]
    have hsurvives : survives (rulesOf s units).references (i.word, "") = true := by
      have hexclude : (rulesOf s units).references.excludeSystem = false := hsystem
      rw [survives, hexclude, ← hword, hprimitive]
      rfl
    have hrefers := (hshows m hm).refers (htext.trans hname) hmodifier hsurvives
    simp only [iff_true]
    exact ⟨m, hm, by rw [hrefers, hword]; exact List.mem_cons_self⟩
  | true =>
    simp only [Bool.true_eq_false, iff_false]
    rintro ⟨m, hm, hrefers⟩
    have hstart := (hshows m hm).start _ hrefers
    rw [hname, Identifier.text_verbatim hverbatim] at hstart
    revert hstart
    decide

def orderUnit : SourceUnit :=
  let classOf (name : String) (members : List MemberDecl) : Declaration :=
    ⟨name, "class", "a.cs", "", [], [], [], members, [], 1⟩
  let property (name type : String) : MemberDecl := ⟨name, "property", ["public"], type, 1⟩
  ⟨"a.cs", [classOf "Order" [], classOf "@Event" [],
    classOf "Client" [property "Last" "Order", property "Seen" "@Event"]], []⟩

theorem orderUnit_boxes {p : Progress}
    (h : Reached (rulesOf .default [orderUnit]) (groupsOf .default [orderUnit]) p) :
    ∃ order event client, p.chart.boxes = [order, event, client] ∧
      order.outline = ⟨"Order", .class, "Order", "", none, [], [], []⟩ ∧
      event.outline = ⟨"@Event", .class, "@Event", "", none, [], [], []⟩ ∧
      client.outline = ⟨"Client", .class, "Client", "", none, [],
        [⟨"Last", .pub, .property, "Order", none, ["Order"]⟩,
          ⟨"Seen", .pub, .property, "@Event", none, ["Event"]⟩], []⟩ := by
  have houtlines : firstBy Outline.name []
      ((groupsOf .default [orderUnit]).filterMap (outline? (rulesOf .default [orderUnit]))) =
        [⟨"Order", .class, "Order", "", none, [], [], []⟩,
          ⟨"@Event", .class, "@Event", "", none, [], [], []⟩,
          ⟨"Client", .class, "Client", "", none, [],
            [⟨"Last", .pub, .property, "Order", none, ["Order"]⟩,
              ⟨"Seen", .pub, .property, "@Event", none, ["Event"]⟩], []⟩] := by
    decide +kernel
  rw [← h.outlines] at houtlines
  obtain ⟨order, _, hboxes, horder, hrest⟩ := List.map_eq_cons_iff.mp houtlines
  obtain ⟨event, _, rfl, hevent, hrest⟩ := List.map_eq_cons_iff.mp hrest
  obtain ⟨client, _, rfl, hclient, hnil⟩ := List.map_eq_cons_iff.mp hrest
  obtain rfl := List.map_eq_nil_iff.mp hnil
  exact ⟨order, event, client, hboxes, horder, hevent, hclient⟩

/-- The property of type `Order` makes its class depend on the class `Order`. -/
theorem declared_name_met_of_order :
    Settings.default.excludeSystem = false ∧ Settings.default.ignoreDependencies = false ∧
      ∃ r order client, ((Session.new .default).buildUnits [orderUnit]).2 = .ok r ∧
        order.name = "Order" ∧ client.name = "Client" ∧
        ⟨client, order, .dependency⟩ ∈ r.chart.links := by
  obtain ⟨r, p, hbuild, hp, hchart, _⟩ := buildUnits_reached .default [orderUnit]
  obtain ⟨order, event, client, hboxes, horder, hevent, hclient⟩ := orderUnit_boxes hp
  obtain ⟨r', hbuild', hmet⟩ := declared_name_met .default [orderUnit] rfl rfl
  obtain rfl : r = r' := Except.ok.inj (hbuild.symm.trans hbuild')
  have hmem : order ∈ r.chart.boxes ∧ client ∈ r.chart.boxes := by simp [hchart, hboxes]
  have hname : order.name = "Order" := congrArg Outline.name horder
  have hname' : client.name = "Client" := congrArg Outline.name hclient
  have hne : client ≠ order := by
    rintro rfl
    simp [hname] at hname'
  let i : Identifier :=
    ⟨false, 'O', ['r', 'd', 'e', 'r'], by decide, List.all_eq_true.mp (by decide)⟩
  have htext : order.name = i.text := hname
  have hmodifier : i.word ∉ ["ref", "readonly", "scoped"] := by decide
  have hprimitive : Names.isPrimitive order.name = false := by
    rw [hname]
    decide +kernel
  have hmember : ∃ m ∈ client.outline.members, m.typeText = order.name := by
    simp [hclient, hname]
  refine ⟨rfl, rfl, r, order, client, hbuild, hname, hname', ?_⟩
  exact (hmet client hmem.2 order hmem.1 hne i htext hprimitive hmodifier hmember).mpr rfl

/-- The property of type `@Event` does not make its class depend on the class `@Event`. -/
theorem verbatim_name_missed :
    ∃ i : Identifier, i.text = "@Event" ∧ Names.isPrimitive "@Event" = false ∧
      i.word ∉ ["ref", "readonly", "scoped"] ∧
      ∃ r client event, ((Session.new .default).buildUnits [orderUnit]).2 = .ok r ∧
        client ∈ r.chart.boxes ∧ event ∈ r.chart.boxes ∧ client ≠ event ∧ event.name = i.text ∧
        (∃ m ∈ client.outline.members, m.typeText = event.name) ∧
        ⟨client, event, .dependency⟩ ∉ r.chart.links := by
  obtain ⟨r, p, hbuild, hp, hchart, _⟩ := buildUnits_reached .default [orderUnit]
  obtain ⟨order, event, client, hboxes, horder, hevent, hclient⟩ := orderUnit_boxes hp
  have hmem : event ∈ p.chart.boxes ∧ client ∈ p.chart.boxes := by simp [hboxes]
  have hname : event.name = "@Event" := congrArg Outline.name hevent
  have hname' : client.name = "Client" := congrArg Outline.name hclient
  have hne : client ≠ event := by
    rintro rfl
    simp [hname] at hname'
  have hmissed : ⟨client, event, .dependency⟩ ∉ p.chart.relations false := by
    rw [Chart.dependency_mem_relations hp.distinct hmem.2 hmem.1 hne]
    simp [hclient, hname]
  let i : Identifier :=
    ⟨true, 'E', ['v', 'e', 'n', 't'], by decide, List.all_eq_true.mp (by decide)⟩
  refine ⟨i, rfl, by decide +kernel, by decide, r, client, event, hbuild, ?_⟩
  rw [hchart]
  refine ⟨hmem.2, hmem.1, hne, hname, ?_, hmissed⟩
  simp [hclient, hname]

end Build
end ClassChart
