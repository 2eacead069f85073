import ClassChart.Proofs.Build.Accounting
import ClassChart.Proofs.Build.Comparison
import ClassChart.Source.File

/-! Calls on a session. The first one always gets a report, and whatever went wrong is noted there.
Every later one is refused before it does anything. -/
namespace ClassChart

theorem mem_contributionsFrom {ds : List Declaration} {decl : MemberDecl}
    (h : decl ∈ ds.flatMap (·.members)) (place : Nat) :
    ∃ source, .member source decl ∈ contributionsFrom place ds := by
  rw [← decls_contributionsFrom place, List.mem_filterMap] at h
  obtain ⟨c, hc, hdecl⟩ := h
  cases c with
  | base place source entry => simp [Contribution.decl?] at hdecl
  | member source decl' => exact ⟨source, Option.some.inj hdecl ▸ hc⟩

/-- A member whose type text cannot be read gets into its outline with a note of why. -/
theorem merge_notes_unreadable {rules : MergeRules} {ds : List Declaration} {o : Outline}
    (h : (merge rules ds).outcome = .ok o) {m : Member} (hm : m ∈ o.members)
    {e : Signature.SyntaxError} (he : Signature.references rules.references m.typeText = .error e) :
    ∃ source decl, decl.name = m.name ∧ decl.typeText = m.typeText ∧
      Draft.signatureNote source decl e ∈ (merge rules ds).notes := by
  cases ds with
  | nil => simp [merge] at h
  | cons first rest =>
    obtain ⟨ho, hnotes⟩ := described_of_merge h
    rw [ho, described] at hm
    rw [hnotes, remarksOf]
    by_cases henum : o.kind = .enum
    · simp [henum] at hm
    · rw [if_neg henum] at hm ⊢
      obtain ⟨decl, hdecl, hmember⟩ := List.mem_filterMap.mp hm
      obtain ⟨hvisible, hname, htext⟩ := MemberDecl.of_member? hmember
      obtain ⟨source, hsource⟩ := mem_contributionsFrom hdecl 0
      refine ⟨source, decl, hname, htext, List.mem_filterMap.mpr ⟨_, hsource, ?_⟩⟩
      rw [Contribution.note?, hvisible, htext, he]

namespace Build
variable {s : Settings}

/-- A call hands over files to read and parse, or what files gave. -/
inductive Call where
  | files (parse : Source.Parser) (disk : Files.Disk) (root : String) (paths : List String)
  | units (units : List SourceUnit)

namespace Call

def readings : Call → List Reading
  | files parse disk root paths => paths.map (Source.reading parse disk root)
  | units us => us.map .ok

def given (c : Call) : List SourceUnit := c.readings.filterMap (·.toOption)

end Call

namespace Session

def call (session : Session) (c : Call) : Session × Except SessionError Report :=
  session.build c.readings

def calls (session : Session) : List Call → Session × List (Except SessionError Report)
  | [] => (session, [])
  | c :: rest =>
    let (next, answer) := session.call c
    let (last, answers) := next.calls rest
    (last, answer :: answers)

variable {session : Session}

theorem call_used (h : session.used = true) (c : Call) :
    session.call c = (session, .error .used) := by
  rw [call, build, if_pos h]

theorem calls_used (h : session.used = true) (cs : List Call) :
    session.calls cs = (session, cs.map fun _ => .error .used) := by
  induction cs with
  | nil => rfl
  | cons c rest ih => simp only [calls, call_used h, ih, List.map_cons]

end Session

/-- What is known of a group after a run: its box, or a note of why it has none. -/
inductive Settled (rules : MergeRules) (boxes : List Box) (notes : List Diagnostic) (g : Group) : Prop
  | built (b : Box) (hb : b ∈ boxes) (hmerge : (merge rules (kept g.2)).outcome = .ok b.outline)
  | taken (first : Declaration) (holder : Box) (hfirst : g.2.head? = some first)
      (hholder : holder ∈ boxes) (hname : holder.name = first.name)
      (hnote : takenNote g.1 first holder.outline ∈ notes)
  | failed (first : Declaration) (e : MergeError) (hfirst : g.2.head? = some first)
      (hmerge : (merge rules (kept g.2)).outcome = .error e)
      (hnote : failureNote g.1 first e.message ∈ notes)

section
variable {rules : MergeRules} {gs : List Group} {p : Progress} (h : Reached rules gs p)
include h

theorem Reached.settled (hgs : ∀ g ∈ gs, ∃ first rest, g.2 = first :: rest) {g : Group}
    (hg : g ∈ gs) : Settled rules p.chart.boxes p.notes g := by
  have hfate := (fated_perm rules gs).mem_iff.mpr hg
  rw [List.mem_append, List.mem_append] at hfate
  rcases hfate with (hbuilt | htaken) | hfailed
  · obtain ⟨b, hb, ho⟩ := exists_of_forall₂ h.boxes_built hbuilt
    exact .built b hb (outline?_eq_some.mp ho)
  · obtain ⟨_, hnote, first, holder, hfirst, hholder, rfl⟩ :=
      exists_of_forall₂ (h.taken hgs) htaken
    obtain ⟨hmem, hname⟩ := Chart.box?_eq_some hholder
    exact .taken first holder hfirst hmem hname (List.mem_filter.mp hnote).1
  · obtain ⟨_, hnote, first, e, hfirst, hmerge, rfl⟩ := exists_of_forall₂ (h.failed hgs) hfailed
    exact .failed first e hfirst hmerge (List.mem_filter.mp hnote).1

theorem Reached.merge_notes {g : Group} (hg : g ∈ fated rules gs .built) :
    (merge rules (kept g.2)).notes ⊆ p.notes := by
  obtain ⟨holder, hturn, hbuilt⟩ := mem_fated.mp hg
  obtain ⟨q, ds⟩ := g
  cases holder with
  | some o => simp [fate] at hbuilt
  | none =>
    cases ds with
    | nil => simp [kept, merge]
    | cons first rest =>
      intro d hd
      rw [h.notes, List.mem_flatMap]
      refine ⟨_, hturn, List.mem_append_right _ ?_⟩
      exact List.mem_append_left _ hd

theorem Reached.unreadable {b : Box} (hb : b ∈ p.chart.boxes) {m : Member}
    (hm : m ∈ b.outline.members) {e : Signature.SyntaxError}
    (he : Signature.references rules.references m.typeText = .error e) :
    ∃ source decl, decl.name = m.name ∧ decl.typeText = m.typeText ∧
      Draft.signatureNote source decl e ∈ p.notes := by
  obtain ⟨g, hg, ho⟩ := exists_of_forall₂ h.boxes_built.flip hb
  obtain ⟨source, decl, hname, htext, hnote⟩ :=
    merge_notes_unreadable (outline?_eq_some.mp ho) hm he
  exact ⟨source, decl, hname, htext, h.merge_notes hg hnote⟩

end

/-- Everything that went wrong in a call is in its report. -/
structure Report.Covers (s : Settings) (c : Call) (r : Report) : Prop where
  refusals : ∀ fault, .error fault ∈ c.readings → fault.diagnostic ∈ r.diagnostics
  faults : ∀ u ∈ c.given, ∀ fault ∈ u.faults, fault.diagnostic ∈ r.diagnostics
  duplicates : ∀ g ∈ groupsOf s c.given, ∀ d ∈ dropped g.2, duplicateNote g.1 d ∈ r.diagnostics
  groups : ∀ g ∈ groupsOf s c.given,
    Settled (rulesOf s c.given) r.chart.boxes r.diagnostics g
  unreadable : ∀ b ∈ r.chart.boxes, ∀ m ∈ b.outline.members, ∀ e,
    Signature.references (rulesOf s c.given).references m.typeText = .error e →
      ∃ source decl, decl.name = m.name ∧ decl.typeText = m.typeText ∧
        Draft.signatureNote source decl e ∈ r.diagnostics

theorem call_new (s : Settings) (c : Call) :
    ∃ r, (Session.new s).call c = (⟨s, r.diagnostics, true⟩, .ok r) ∧ r.Covers s c := by
  refine ⟨_, build_new (report_eq s _ c.given), ?_⟩
  have hreached := progress_reached s c.given
  have hgroups : ∀ g ∈ groupsOf s c.given, ∃ first rest, g.2 = first :: rest :=
    fun _ hg => group_eq_cons hg
  have hnotes : ∀ d ∈ (progress s c.given).notes, d ∈ c.readings.filterMap refusal? ++
      faultNotes c.given ++ (progress s c.given).notes := fun _ => List.mem_append_right _
  constructor
  · intro fault hfault
    refine List.mem_append_left _ (List.mem_append_left _ ?_)
    exact List.mem_filterMap.mpr ⟨_, hfault, rfl⟩
  · intro u hu fault hfault
    refine List.mem_append_left _ (List.mem_append_right _ ?_)
    exact List.mem_flatMap.mpr ⟨u, hu, List.mem_map_of_mem hfault⟩
  · intro g hg d hd
    have hnote : duplicateNote g.1 d ∈ notesOfSort .duplicate (progress s c.given).notes := by
      rw [hreached.duplicates hgroups]
      exact List.mem_flatMap.mpr ⟨g, hg, List.mem_map_of_mem hd⟩
    exact hnotes _ (List.mem_filter.mp hnote).1
  · intro g hg
    cases hreached.settled hgroups hg with
    | built b hb hmerge => exact .built b hb hmerge
    | taken first holder hfirst hholder hname hnote =>
      exact .taken first holder hfirst hholder hname (hnotes _ hnote)
    | failed first e hfirst hmerge hnote => exact .failed first e hfirst hmerge (hnotes _ hnote)
  · intro b hb m hm e he
    obtain ⟨source, decl, hname, htext, hnote⟩ := hreached.unreadable hb hm he
    exact ⟨source, decl, hname, htext, hnotes _ hnote⟩

/-- Of any calls on a new session the first one reports, with everything that went wrong in it, and
the others are refused. What is noted with the session stays what the report holds. -/
theorem only_first_call_builds (s : Settings) (first : Call) :
    ∃ r, r.Covers s first ∧ ∀ later : List Call,
      (Session.new s).calls (first :: later) =
        (⟨s, r.diagnostics, true⟩, .ok r :: later.map fun _ => .error .used) := by
  obtain ⟨r, hcall, hcovers⟩ := call_new s first
  refine ⟨r, hcovers, fun later => ?_⟩
  have hlater : Session.calls ⟨s, r.diagnostics, true⟩ later =
      (⟨s, r.diagnostics, true⟩, later.map fun _ => .error .used) :=
    Session.calls_used rfl later
  simp only [Session.calls, hcall, hlater]

end Build
end ClassChart
